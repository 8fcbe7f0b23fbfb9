import FusionGuards.Compliance
import FusionGuards.Guard.Basic
import FusionGuards.Guard.Value
import FusionGuards.View.Check

/-! With guard mode off a check is skipped and the guard counts as bypassed. Only the inference of a view comes before
that, so that an infeasible view fails in either mode. -/

namespace FusionGuards

structure Mode where
  guards : Bool := true
  gradient : Bool := true
  deriving DecidableEq, Repr

namespace Guard

def fault (guard : GuardKind) (c : Cause) : Attempt Fault α := throw ⟨guard, c⟩

def record (guard : GuardKind) (passed : Bool) : Report Bool :=
  if passed then { value := true, tally := { passed := 1 } }
  else { value := false, events := [.guardFailed guard], tally := { failed := 1 } }

def bypass : Report Bool := { value := true, tally := { bypassed := 1 } }

def gate (mode : Mode) (guard : GuardKind) (check : Attempt Fault Bool) : Attempt Fault Bool :=
  if mode.guards then do
    record guard (← check)
  else bypass

def tensorsComply (gradMode : Bool) : List Signature → List Value → Attempt Fault Bool
  | s :: signatures, v :: values =>
    match v.toTensor? with
    | none => fault .tensor (.unexpectedValue "input" "a tensor" v.typeName)
    | some t => do
      if ← s.complies t gradMode then tensorsComply gradMode signatures values
      else return false
  | _, _ => pure true

def checkView (mode : Mode) (c : ViewConstraint) (sizes requested : Value) : Attempt Fault Bool := do
  let sizes ← Attempt.ofExcept (sizes.expectInts .view "tensor_sizes")
  let requested ← Attempt.ofExcept (requested.expectInts .view "view_sizes")
  match ← View.infer sizes requested with
  | none => record .view false
  | some resolved => gate mode .view (c.check sizes resolved)

def check (mode : Mode) (g : Guard) (args : List Value) : Attempt Fault Bool :=
  if args.length ≠ g.arity then fault g.kind (.argumentCount g.arity args.length)
  else
    match g, args with
    | tensor signatures, args => gate mode .tensor (tensorsComply mode.gradient signatures args)
    | view c, [sizes, requested] => checkView mode c sizes requested
    | value, [lhs, rhs] => gate mode .value (pure (lhs.equal rhs))
    | sizeEq, [input, reference] => gate mode .sizeEq (.ofExcept (broadcastEqual input reference))
    | g, args => fault g.kind (.argumentCount g.arity args.length)

def checkTensors (mode : Mode) (signatures : List Signature) (inputs : List Value) :
    Attempt Fault Bool :=
  if signatures.length ≠ inputs.length then
    fault .tensor (.argumentCount signatures.length inputs.length)
  else gate mode .tensor (tensorsComply mode.gradient signatures inputs)

/-- The view guard over four arguments: input sizes, requested sizes, and the raw lists of both sides' rules. -/
def checkRawView (mode : Mode) : List Value → Attempt Fault Bool
  | [sizes, requested, inputRules, viewRules] => do
    let inputRules ← Attempt.ofExcept (inputRules.expectInts .view "tensor_constraint")
    let viewRules ← Attempt.ofExcept (viewRules.expectInts .view "view_sizes_constraint")
    checkView mode (.ofRaw inputRules viewRules) sizes requested
  | inputs => fault .view (.argumentCount 4 inputs.length)

def checkValues (mode : Mode) (lhs rhs : Value) : Report Bool :=
  if mode.guards then record .value (lhs.equal rhs) else bypass

def checkSizes (mode : Mode) (input reference : Value) : Attempt Fault Bool :=
  gate mode .sizeEq (.ofExcept (broadcastEqual input reference))

end Guard

namespace Binding

def select (args : List Value) : List Nat → Except Nat (List Value)
  | [] => .ok []
  | position :: rest =>
    match args[position]? with
    | none => .error position
    | some v => (select args rest).map (v :: ·)

def check (mode : Mode) (b : Binding) (args : List Value) : Attempt Fault Bool :=
  match select args b.arguments with
  | .error position => Guard.fault b.guard.kind (.argumentCount (position + 1) args.length)
  | .ok bound => b.guard.check mode bound

end Binding

namespace Chain

def evaluateFrom (mode : Mode) (args : List Value) (index : Nat) : List Binding → Attempt Fault Verdict
  | [] => pure .pass
  | b :: rest => do
    if ← b.check mode args then evaluateFrom mode args (index + 1) rest
    else return .fail index b.guard.kind

def evaluate (mode : Mode) (c : Chain) (args : List Value) : Attempt Fault Verdict :=
  evaluateFrom mode args 0 c.bindings

end Chain

end FusionGuards
