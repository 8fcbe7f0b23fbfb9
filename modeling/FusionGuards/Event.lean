import FusionGuards.Guard.Fault
import FusionGuards.Tensor.ElementType
import FusionGuards.View.Constraint

namespace FusionGuards

inductive Level
  | trace
  | debug
  | info
  | warn
  | error
  deriving DecidableEq, Repr

namespace Level

def name : Level → String
  | trace => "TRACE"
  | debug => "DEBUG"
  | info => "INFO"
  | warn => "WARN"
  | error => "ERROR"

def severity : Level → Nat
  | trace => 0
  | debug => 1
  | info => 2
  | warn => 3
  | error => 4

end Level

inductive Event
  | rankMismatch (expected found : Nat)
  | elementTypeMismatch (found : ElementType)
  | deviceMismatch (found : Device)
  | gradientMismatch
  | orderMismatch (position dim : Nat)
  | contiguityMismatch (position dim : Nat)
  | broadcastMismatch (dim : Nat)
  | emptinessMismatch (dim : Nat)
  | infeasibleView (elements viewElements : Int64)
  | viewCountMismatch
  | tensorAxisMismatch (expected size : Int64)
  | unmatchedDynamicAxis
  | viewAxisMismatch (expected size : Int64)
  | guardFailed (guard : GuardKind)
  | pathRejected (group : String) (index : Nat) (guard : GuardKind)
  | defaultRead (variableName : String) (value : Option Bool)
  | forceDisableRead (variableName : String) (value : Bool)
  | enablementAssigned (enabled previous : Bool)
  | incapable
  | guardModeChanged (enabled previous : Bool)
  | toggleIgnored (variableName text : String)
  | checkingView (constraint : ViewConstraint)
  deriving DecidableEq, Repr

namespace Event

def level : Event → Level
  | pathRejected .. | defaultRead .. | forceDisableRead .. | enablementAssigned .. | guardModeChanged ..
  | checkingView .. => .debug
  | incapable | toggleIgnored .. => .warn
  | _ => .trace

def message : Event → String
  | rankMismatch .. => "rank mismatch"
  | elementTypeMismatch .. => "scalar type mismatch"
  | deviceMismatch .. => "device mismatch"
  | gradientMismatch => "requires_grad mismatch"
  | orderMismatch .. => "stride order mismatch"
  | contiguityMismatch .. => "contiguity mismatch"
  | broadcastMismatch .. => "broadcast mismatch"
  | emptinessMismatch .. => "size-0 mismatch"
  | infeasibleView .. => "view is infeasible"
  | viewCountMismatch => "view guard dimension count mismatch"
  | tensorAxisMismatch .. => "static tensor axis mismatch"
  | unmatchedDynamicAxis => "dynamic view axis has no matching tensor axis"
  | viewAxisMismatch .. => "view axis mismatch"
  | guardFailed .. => "guard failed"
  | pathRejected .. => "guard rejected cached path"
  | defaultRead .. => "read fuser environment default"
  | forceDisableRead .. => "read fuser force-disable flag"
  | enablementAssigned .. => "fuser enablement assigned"
  | incapable => "attempted to enable the fuser without the required capabilities"
  | guardModeChanged .. => "guard mode changed"
  | toggleIgnored .. => "ignoring unrecognised boolean"
  | checkingView .. => "checking view against recorded constraint"

def source : Event → String
  | toggleIgnored .. => "specguard::config"
  | checkingView .. => "specguard::cli"
  | guardModeChanged .. => "specguard::runtime::fuser"
  | defaultRead .. | forceDisableRead .. | enablementAssigned .. | incapable =>
    "specguard::runtime::fuser::enabler"
  | pathRejected .. => "specguard::runtime::fuser::dispatch"
  | guardFailed .. => "specguard::runtime::guard"
  | infeasibleView .. | viewCountMismatch | tensorAxisMismatch .. | unmatchedDynamicAxis
  | viewAxisMismatch .. => "specguard::runtime::guard::view"
  | _ => "specguard::runtime::guard::compliance"

def describeSwitch : Option Bool → String
  | none => "None"
  | some b => "Some(" ++ toString b ++ ")"

def fields : Event → List (String × String)
  | rankMismatch expected found => [("expected", toString expected), ("found", toString found)]
  | elementTypeMismatch found => [("found", found.name)]
  | deviceMismatch found => [("found", found.name)]
  | orderMismatch position dim | contiguityMismatch position dim =>
    [("position", toString position), ("dim", toString dim)]
  | broadcastMismatch dim | emptinessMismatch dim => [("dim", toString dim)]
  | infeasibleView elements viewElements =>
    [("elements", Word.text elements), ("view_elements", Word.text viewElements)]
  | tensorAxisMismatch expected size | viewAxisMismatch expected size =>
    [("expected", Word.text expected), ("size", Word.text size)]
  | guardFailed guard => [("guard", guard.name)]
  | pathRejected group index guard =>
    [("group", group), ("index", toString index), ("guard", guard.name)]
  | defaultRead variableName value =>
    [("var", "\"" ++ variableName ++ "\""), ("value", describeSwitch value)]
  | forceDisableRead variableName value =>
    [("var", "\"" ++ variableName ++ "\""), ("value", toString value)]
  | enablementAssigned enabled previous | guardModeChanged enabled previous =>
    [("enabled", toString enabled), ("previous", toString previous)]
  | toggleIgnored variableName text => [("var", "\"" ++ variableName ++ "\""), ("value", text)]
  | checkingView constraint => [("constraint", constraint.describe)]
  | gradientMismatch | viewCountMismatch | unmatchedDynamicAxis | incapable => []

def line (e : Event) : String :=
  e.level.name ++ " " ++ e.message ++ .join (e.fields.map fun f => " " ++ f.1 ++ "=" ++ f.2)

end Event

end FusionGuards
