import FusionGuards.Tensor.Walk

namespace FusionGuards

structure StrideSlot where
  index : Option Nat := none
  contiguous : Bool := false
  deriving DecidableEq, Repr

structure Signature where
  rank : Option Nat
  elementType : Option ElementType := none
  device : Option Device := none
  requiresGrad : Option Bool := none
  sizes : List (Option Int64) := []
  slots : List StrideSlot := []
  deriving DecidableEq, Repr

namespace Signature

def unconstrained (rank : Nat) : Signature :=
  { rank := some rank, sizes := .replicate rank none, slots := .replicate rank {} }

/-- From the fastest axis to the slowest. Of two with one stride the later dimension comes first, as it is the
faster one in row-major layout. -/
def fasterOrEqual (a b : Axis) : Bool :=
  decide (a.stride < b.stride) || (a.stride == b.stride && decide (b.dim ≤ a.dim))

def slotsFrom (w : Walk) (position : Nat) : List Axis → List StrideSlot
  | [] => []
  | a :: rest => ⟨some a.dim, w.contiguousAt position a⟩ :: slotsFrom (w.advance a) (position + 1) rest

def of (t : Tensor) (gradMode : Bool) : Signature where
  rank := some t.ndim
  elementType := some t.elementType
  device := some t.device
  requiresGrad := some (t.effectiveGrad gradMode)
  sizes := t.sizes.map some
  slots := slotsFrom {} 0 (t.axes.mergeSort fasterOrEqual)

def recorded? (s : Signature) (dim : Nat) : Option Int64 := s.sizes[dim]?.join

def isBroadcast? (s : Signature) (dim : Nat) : Option Bool := (s.recorded? dim).map (· == 1)

def isEmpty? (s : Signature) (dim : Nat) : Option Bool := (s.recorded? dim).map (· == 0)

end Signature

end FusionGuards
