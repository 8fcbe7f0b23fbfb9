import FusionGuards.Fuser.Basic

namespace FusionGuards

inductive Route
  | specialized
  | fallback
  deriving DecidableEq, Repr

def Route.name : Route → String
  | specialized => "specialized"
  | fallback => "fallback"

structure CachedPath where
  group : Group
  guards : Chain
  deriving DecidableEq, Repr

structure Dispatch (ω : Type) where
  answer : Except FuserError Route
  enablement : Enablement
  stack : Stack
  state : ω

namespace CachedPath

def admits (p : CachedPath) (f : Fuser ω) (host : Host) (gradMode : Bool) (args : Stack) :
    Report (Except FuserError Bool × Enablement) := do
  match ← f.enablement.isEnabled host with
  | (.error err, e) => return (.error err, e)
  | (.ok false, e) => return (.ok true, e)
  | (.ok true, e) =>
    match ← (p.guards.evaluate (f.mode gradMode) args).run with
    | .error fault => return (.error (.guard fault), e)
    | .ok .pass => return (.ok true, e)
    | .ok (.fail index guard) =>
      Report.emit (.pathRejected p.group.name index guard)
      return (.ok false, e)

def execute (p : CachedPath) (f : Fuser ω) (host : Host) (gradMode : Bool)
    (fallback : Stack → StateM ω (Except String Unit × Stack)) (stack : Stack) (s : ω) :
    Report (Dispatch ω) := do
  match ← p.admits f host gradMode stack with
  | (.error err, e) => return ⟨.error err, e, stack, s⟩
  | (.ok true, e) =>
    match f.run p.group stack s with
    | ((.error err, left), s') => return ⟨.error err, e, left, s'⟩
    | ((.ok (), left), s') =>
      Report.count { specialized := 1 }
      return ⟨.ok .specialized, e, left, s'⟩
  | (.ok false, e) =>
    Report.count { fallbacks := 1 }
    match fallback stack s with
    | ((.error source, left), s') => return ⟨.error (.fallback source), e, left, s'⟩
    | ((.ok (), left), s') => return ⟨.ok .fallback, e, left, s'⟩

end CachedPath

end FusionGuards
