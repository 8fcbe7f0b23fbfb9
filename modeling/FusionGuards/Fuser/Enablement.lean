import FusionGuards.Fuser.Environment
import FusionGuards.Guard.Fault
import FusionGuards.Report

/-! The environment is asked for each of its two variables once. Its wish is validated once, and again as long as that
fails. -/

namespace FusionGuards

inductive Operation
  | compile
  | run
  deriving DecidableEq, Repr

inductive FuserError
  | incapable
  | noBackend (operation : Operation)
  | backend (operation : Operation) (source : String)
  | fallback (source : String)
  | guard (fault : Fault)
  deriving DecidableEq, Repr

namespace FuserError

def message : FuserError → String
  | incapable => "running the fusion backend is only supported on accelerated builds"
  | noBackend .compile => "compiling a fusion group requires a fusion backend, but none is installed"
  | noBackend .run => "running a fusion group requires a fusion backend, but none is installed"
  | backend .compile _ => "fusion backend failed to compile a fusion group"
  | backend .run _ => "fusion backend failed to run a fusion group"
  | fallback _ => "fallback execution failed"
  | guard f => f.message

def source? : FuserError → Option String
  | backend _ source | fallback source => some source
  | _ => none

end FuserError

def enableVariable : String := "SPECGUARD_FUSER_ENABLE"

def forceDisableVariable : String := "SPECGUARD_FUSER_FORCE_DISABLE"

structure Enablement where
  assigned : Option Bool := none
  validated : Bool := false
  default? : Option (Option Bool) := none
  forced? : Option Bool := none
  asked : List String := []
  deriving DecidableEq, Repr

namespace Enablement

def readDefault (e : Enablement) (env : Environment) : Report (Option Bool × Enablement) :=
  match e.default? with
  | some value => pure (value, e)
  | none =>
    let value := (env enableVariable).map Switch.enables
    { value := (value, { e with default? := some value, asked := e.asked ++ [enableVariable] })
      events := [.defaultRead enableVariable value] }

def readForced (e : Enablement) (env : Environment) : Report (Bool × Enablement) :=
  match e.forced? with
  | some value => pure (value, e)
  | none =>
    let value := (env forceDisableVariable).any Switch.forces
    { value := (value, { e with forced? := some value, asked := e.asked ++ [forceDisableVariable] })
      events := [.forceDisableRead forceDisableVariable value] }

def assertCapable (capabilities : Capabilities) (enabled : Bool) : Attempt FuserError Unit :=
  if enabled && !capabilities.suffice then do
    Report.emit .incapable
    throw .incapable
  else pure ()

def validate (e : Enablement) (host : Host) : Report (Except FuserError Unit × Enablement) := do
  if e.validated then return (.ok (), e)
  else if e.assigned.isSome then return (.ok (), { e with validated := true })
  else
    let (value, e) ← e.readDefault host.environment
    match ← (assertCapable host.capabilities (value.getD false)).run with
    | .error err => return (.error err, e)
    | .ok () => return (.ok (), { e with validated := true })

def isEnabled (e : Enablement) (host : Host) : Report (Except FuserError Bool × Enablement) := do
  match ← e.validate host with
  | (.error err, e) => return (.error err, e)
  | (.ok (), e) =>
    let (forced, e) ← e.readForced host.environment
    if forced then return (.ok false, e)
    else
      match e.assigned with
      | some value => return (.ok value, e)
      | none =>
        let (value, e) ← e.readDefault host.environment
        return (.ok (value.getD host.capabilities.suffice), e)

def assign (e : Enablement) (enabled previous : Bool) : Report (Except FuserError Bool × Enablement) :=
  { value := (.ok previous, { e with assigned := some enabled })
    events := [.enablementAssigned enabled previous] }

/-- Assigns a value and answers what `isEnabled` would have. An environment default that the host could not
follow was never in force, so it reads as off when the fuser is turned off. -/
def setEnabled (e : Enablement) (host : Host) (enabled : Bool) :
    Report (Except FuserError Bool × Enablement) := do
  match ← (assertCapable host.capabilities enabled).run with
  | .error err => return (.error err, e)
  | .ok () =>
    match ← e.isEnabled host with
    | (.ok previous, e) => e.assign enabled previous
    | (.error err, e) => if enabled then return (.error err, e) else e.assign enabled false

def describeDefault : Option (Option Bool) → String
  | none => "None"
  | some value => "Some(" ++ Event.describeSwitch value ++ ")"

def describe (e : Enablement) : String :=
  "FuserEnabler \x7b runtime_assigned: " ++ Event.describeSwitch e.assigned ++ ", env_default: "
    ++ describeDefault e.default? ++ ", force_disable: " ++ Event.describeSwitch e.forced? ++ ", .. \x7d"

end Enablement

end FusionGuards
