import FusionGuards.Guard.Fault
import FusionGuards.Report
import FusionGuards.Tensor.Signature

namespace FusionGuards.Signature

def reject (e : Event) : Attempt Fault Bool := .answer false e

def fault (c : Cause) : Attempt Fault Bool := throw ⟨.tensor, c⟩

def checkSize (dim : Nat) (recorded : Option Int64) (size : Int64) : Option Event :=
  match recorded with
  | none => none
  | some r =>
    if (r == 1) != (size == 1) then some (.broadcastMismatch dim)
    else if (r == 0) != (size == 0) then some (.emptinessMismatch dim)
    else none

theorem checkSize_recorded? (s : Signature) (dim : Nat) (size : Int64) :
    checkSize dim (s.recorded? dim) size =
      if (s.isBroadcast? dim).any (· != (size == 1)) then some (.broadcastMismatch dim)
      else if (s.isEmpty? dim).any (· != (size == 0)) then some (.emptinessMismatch dim)
      else none := by
  rw [isBroadcast?, isEmpty?]
  cases s.recorded? dim <;> rfl

inductive SlotResult
  | fault (c : Cause)
  | mismatch (e : Event)
  | beyond (w : Walk)

/-- Checks one slot. `afterUnknown` says that the position before it is there and has no index. -/
def checkSlot (t : Tensor) (w : Walk) (position : Nat) (afterUnknown : Bool) (slot : StrideSlot) :
    SlotResult :=
  match slot.index with
  | none => .beyond w
  | some dim =>
    match t.axis? dim with
    | none => .fault (.slotOutOfRange dim t.ndim)
    | some a =>
      if !w.orderHolds a then .mismatch (.orderMismatch position dim)
      else if slot.contiguous && afterUnknown && a.size != 1 && a.stride != 1 then
        .fault (.unknownNeighbour position)
      else if slot.contiguous && !w.contiguousAt position a then
        .mismatch (.contiguityMismatch position dim)
      else .beyond (w.advance a)

def checkFrom (t : Tensor) (w : Walk) (position : Nat) (afterUnknown : Bool) :
    List StrideSlot → List (Option Int64) → List Int64 → Attempt Fault Bool
  | slot :: slots, recorded :: others, size :: sizes =>
    match checkSlot t w position afterUnknown slot with
    | .fault c => fault c
    | .mismatch e => reject e
    | .beyond w' =>
      match checkSize position recorded size with
      | some e => reject e
      | none => checkFrom t w' (position + 1) slot.index.isNone slots others sizes
  | _, _, _ => pure true

def complies (s : Signature) (t : Tensor) (gradMode : Bool) : Attempt Fault Bool :=
  match s.rank with
  | none => fault .missingRank
  | some rank =>
    if rank ≠ t.ndim then reject (.rankMismatch rank t.ndim)
    else if s.elementType.any (· != t.elementType) then reject (.elementTypeMismatch t.elementType)
    else if s.device.any (· != t.device) then reject (.deviceMismatch t.device)
    else if s.requiresGrad.any (· != t.effectiveGrad gradMode) then reject .gradientMismatch
    else if s.sizes.length < rank ∨ s.slots.length < rank then
      fault (.signatureLength rank s.sizes.length s.slots.length)
    else checkFrom t {} 0 false s.slots s.sizes t.sizes

end FusionGuards.Signature
