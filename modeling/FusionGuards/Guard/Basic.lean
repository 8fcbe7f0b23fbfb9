import FusionGuards.Guard.Fault
import FusionGuards.Tensor.Signature
import FusionGuards.View.Constraint

namespace FusionGuards

inductive Guard
  | tensor (signatures : List Signature)
  /-- The arguments are the input sizes and the requested view sizes. -/
  | view (constraint : ViewConstraint)
  | value
  /-- The arguments are the input sizes or `none`, and the sizes to compare them with. -/
  | sizeEq
  deriving DecidableEq, Repr

namespace Guard

def kind : Guard → GuardKind
  | tensor _ => .tensor
  | view _ => .view
  | value => .value
  | sizeEq => .sizeEq

def arity : Guard → Nat
  | tensor signatures => signatures.length
  | _ => 2

end Guard

structure Binding where
  guard : Guard
  arguments : List Nat
  deriving DecidableEq, Repr

structure Chain where
  bindings : List Binding := []
  deriving DecidableEq, Repr

namespace Chain

def push (c : Chain) (guard : Guard) (arguments : List Nat) : Chain := ⟨c.bindings ++ [⟨guard, arguments⟩]⟩

def length (c : Chain) : Nat := c.bindings.length

def isEmpty (c : Chain) : Bool := c.bindings.isEmpty

end Chain

inductive Verdict
  | pass
  | fail (index : Nat) (guard : GuardKind)
  deriving DecidableEq, Repr

end FusionGuards
