import FusionGuards.Tensor.Basic

/-! Axes of size one do not replace a reference, since they collapse with anything; axes of stride zero never become
one, since broadcasting leaves their place in the order open. -/

namespace FusionGuards

structure Walk where
  reference : Option Axis := none
  deriving DecidableEq, Repr

namespace Walk

def orderHolds (w : Walk) (a : Axis) : Bool :=
  match w.reference with
  | none => true
  | some e => a.stride == 0 || e.stride == 0 || decide (e.stride ≤ a.stride)

def contiguousAt (w : Walk) (position : Nat) (a : Axis) : Bool :=
  if a.size = 1 ∨ a.stride = 1 then true
  else if position = 0 then false
  else
    match w.reference with
    | none => false
    | some e => Word.mul? e.stride e.size == some a.stride

def advance (w : Walk) (a : Axis) : Walk :=
  if a.stride ≠ 0 ∧ (w.reference = none ∨ a.size ≠ 1) then ⟨some a⟩ else w

end Walk

end FusionGuards
