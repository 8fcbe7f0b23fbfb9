import FusionGuards.Fuser.Config
import FusionGuards.Fuser.Enablement
import FusionGuards.Guard.Evaluation

namespace FusionGuards

abbrev Stack := List Value

structure Group where
  id : UInt64
  name : String
  deriving DecidableEq, Repr

structure Node where
  symbol : String
  deriving DecidableEq, Repr

/-- Compiling and running of groups by the host. A host that leaves out the questions about nodes answers no. -/
structure Backend (ω : Type) where
  compile : Group → StateM ω (Except String Unit)
  run : Group → Stack → StateM ω (Except String Unit × Stack)
  canFuse : Node → StateM ω Bool := fun _ => pure false
  profile : Node → StateM ω Bool := fun _ => pure false
  skip : String → Bool → StateM ω Bool := fun _ _ => pure false

structure Fuser (ω : Type) where
  enablement : Enablement := {}
  guardMode : Bool
  singletonFusion : Bool
  horizontalFusion : Bool
  backend : Option (Backend ω) := none
  metrics : Tally := 0

namespace Fuser

def ofConfig (c : Config) : Fuser ω where
  guardMode := c.guardMode
  singletonFusion := c.singletonFusion
  horizontalFusion := c.horizontalFusion

def mode (f : Fuser ω) (gradMode : Bool) : Mode := ⟨f.guardMode, gradMode⟩

def count (f : Fuser ω) (t : Tally) : Fuser ω := { f with metrics := f.metrics + t }

def setGuardMode (f : Fuser ω) (enabled : Bool) : Report (Bool × Fuser ω) :=
  { value := (f.guardMode, { f with guardMode := enabled })
    events := [.guardModeChanged enabled f.guardMode] }

def compile (f : Fuser ω) (group : Group) : StateM ω (Except FuserError Unit) :=
  match f.backend with
  | none => pure (.error (.noBackend .compile))
  | some b => do
    match ← b.compile group with
    | .ok () => return .ok ()
    | .error source => return .error (.backend .compile source)

def run (f : Fuser ω) (group : Group) (stack : Stack) : StateM ω (Except FuserError Unit × Stack) :=
  match f.backend with
  | none => pure (.error (.noBackend .run), stack)
  | some b => do
    match ← b.run group stack with
    | (.ok (), stack) => return (.ok (), stack)
    | (.error source, stack) => return (.error (.backend .run source), stack)

def canFuse (f : Fuser ω) (node : Node) : StateM ω Bool :=
  match f.backend with
  | none => pure false
  | some b => b.canFuse node

def profile (f : Fuser ω) (node : Node) : StateM ω Bool :=
  match f.backend with
  | none => pure false
  | some b => b.profile node

def skip (f : Fuser ω) (symbol : String) (flip : Bool) : StateM ω Bool :=
  match f.backend with
  | none => pure false
  | some b => b.skip symbol flip

def describe (f : Fuser ω) : String :=
  "FuserRuntime \x7b enabler: " ++ f.enablement.describe ++ ", guard_mode: " ++ toString f.guardMode
    ++ ", flags: FusionFlags \x7b singleton_fusion: " ++ toString f.singletonFusion
    ++ ", horizontal_fusion: " ++ toString f.horizontalFusion ++ " \x7d, has_backend: "
    ++ toString f.backend.isSome ++ ", .. \x7d"

end Fuser

end FusionGuards
