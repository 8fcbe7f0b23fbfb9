import FusionGuards.Compliance
import FusionGuards.Proofs.Walk

namespace FusionGuards

namespace StrideSlot

def axis? (slot : StrideSlot) (t : Tensor) : Option Axis := slot.index.bind t.axis?

def Met (slot : StrideSlot) (t : Tensor) (reference : Option Axis) : Prop :=
  ∀ dim ∈ slot.index, ∃ a ∈ t.axis? dim,
    a.Follows reference ∧ (slot.contiguous = true → a.CollapsesWith reference)

/-- Whether a slot can only be contiguous by what lies inside it. -/
def NeedsNeighbour (slot : StrideSlot) (t : Tensor) : Prop :=
  slot.contiguous = true ∧ ∃ a ∈ slot.axis? t, a.size ≠ 1 ∧ a.stride ≠ 1

end StrideSlot

namespace Signature

def SizeMet (recorded : Option Int64) (size : Int64) : Prop :=
  ∀ r ∈ recorded, (r = 1 ↔ size = 1) ∧ (r = 0 ↔ size = 0)

def reference? (s : Signature) (t : Tensor) (position : Nat) : Option Axis :=
  Walk.referenceOf ((s.slots.take position).filterMap (·.axis? t))

@[simp] theorem reference?_zero (s : Signature) (t : Tensor) : s.reference? t 0 = none := rfl

theorem reference?_succ {s : Signature} {t : Tensor} {p : Nat} {slot : StrideSlot} {a : Axis}
    (hslot : s.slots[p]? = some slot) (ha : slot.axis? t = some a) :
    s.reference? t (p + 1) =
      if a.stride ≠ 0 ∧ (s.reference? t p = none ∨ a.size ≠ 1) then some a else s.reference? t p := by
  have visited : (s.slots.take (p + 1)).filterMap (·.axis? t) =
      (s.slots.take p).filterMap (·.axis? t) ++ [a] := by
    simp [List.take_add_one, hslot, ha]
  rw [reference?, visited, Walk.referenceOf_concat]
  rfl

structure Fits (s : Signature) (t : Tensor) (gradMode : Bool) : Prop where
  rank : s.rank = some t.ndim
  elementType : ∀ e ∈ s.elementType, e = t.elementType
  device : ∀ d ∈ s.device, d = t.device
  requiresGrad : ∀ b ∈ s.requiresGrad, b = (t.requiresGrad && gradMode)
  slots : ∀ p < t.ndim, ∀ slot ∈ s.slots[p]?, slot.Met t (s.reference? t p)
  sizes : ∀ p < t.ndim, ∀ recorded ∈ s.sizes[p]?, ∀ size ∈ t.sizes[p]?, SizeMet recorded size

/-- A signature that does not contradict itself on a tensor. -/
structure Consistent (s : Signature) (t : Tensor) : Prop where
  sizes_length : t.ndim ≤ s.sizes.length
  slots_length : t.ndim ≤ s.slots.length
  neighbour : ∀ p, p + 1 < t.ndim → ∀ slot ∈ s.slots[p + 1]?, slot.NeedsNeighbour t →
    ∃ inner ∈ s.slots[p]?, inner.index.isSome = true

@[simp] theorem value_reject (e : Event) : (reject e).run.value = .ok false := rfl

@[simp] theorem value_fault (c : Cause) : (fault c).run.value = .error ⟨.tensor, c⟩ := rfl

theorem checkSize_eq_none_iff {dim : Nat} {recorded : Option Int64} {size : Int64} :
    checkSize dim recorded size = none ↔ SizeMet recorded size := by
  cases recorded with
  | none => simp [checkSize, SizeMet]
  | some r =>
    by_cases h1 : r = 1 ↔ size = 1
    · by_cases h0 : r = 0 ↔ size = 0 <;> simp [checkSize, SizeMet, Bool.beq_eq_decide_eq, h1, h0]
    · simp [checkSize, SizeMet, h1]

section Run

variable {t : Tensor} {axes : List Axis} {position : Nat} {unknown : Bool}

theorem checkSlot_eq_beyond_iff {slot : StrideSlot} {w : Walk} (h : position = 0 → axes = []) :
    checkSlot t (.after axes) position unknown slot = .beyond w ↔
      slot.Met t (Walk.referenceOf axes) ∧ (slot.NeedsNeighbour t → unknown = false) ∧
        w = .after (axes ++ (slot.axis? t).toList) := by
  unfold checkSlot StrideSlot.Met StrideSlot.NeedsNeighbour StrideSlot.axis?
  cases slot.index with
  | none => simp [@eq_comm _ w]
  | some dim =>
    cases ha : t.axis? dim with
    | none => simp [ha]
    | some a =>
      have order := @Walk.orderHolds_after axes a
      have contiguous := Walk.contiguousAt_after (a := a) h
      simp only [ha, Bool.not_eq_eq_eq_not, Bool.not_true, Bool.and_eq_true, bne_iff_ne, ne_eq,
        Option.mem_def, Option.some.injEq, forall_eq', exists_eq_left', ← order, ← contiguous,
        Option.bind_some, and_imp, Option.toList_some, Walk.after_concat]
      grind

theorem value_checkFrom_cons_eq_true_iff {slot : StrideSlot} {slots : List StrideSlot}
    {recorded : Option Int64} {others : List (Option Int64)} {size : Int64} {sizes : List Int64}
    (h : position = 0 → axes = []) :
    (checkFrom t (.after axes) position unknown (slot :: slots) (recorded :: others)
        (size :: sizes)).run.value = .ok true ↔
      slot.Met t (Walk.referenceOf axes) ∧ (slot.NeedsNeighbour t → unknown = false) ∧
        SizeMet recorded size ∧
        (checkFrom t (.after (axes ++ (slot.axis? t).toList)) (position + 1) slot.index.isNone
          slots others sizes).run.value = .ok true := by
  have passes {w : Walk} := @checkSlot_eq_beyond_iff t axes position unknown slot w h
  rw [checkFrom, ← @checkSize_eq_none_iff position]
  cases hs : checkSlot t (.after axes) position unknown slot with
  | beyond w =>
    obtain ⟨met, linked, rfl⟩ := passes.1 hs
    rw [and_iff_right met, and_iff_right linked]
    cases checkSize position recorded size <;> simp
  | fault c =>
    apply iff_of_false (by simp)
    intro ⟨met, linked, _⟩
    rw [passes.2 ⟨met, linked, rfl⟩] at hs
    cases hs
  | mismatch e =>
    apply iff_of_false (by simp)
    intro ⟨met, linked, _⟩
    rw [passes.2 ⟨met, linked, rfl⟩] at hs
    cases hs

def unknownBefore (unknown : Bool) (slots : List StrideSlot) : Nat → Bool
  | 0 => unknown
  | i + 1 => slots[i]?.any (·.index.isNone)

def PositionMet (t : Tensor) (axes : List Axis) (unknown : Bool) (slots : List StrideSlot)
    (others : List (Option Int64)) (sizes : List Int64) (i : Nat) : Prop :=
  ∀ slot ∈ slots[i]?, ∀ recorded ∈ others[i]?, ∀ size ∈ sizes[i]?,
    slot.Met t (Walk.referenceOf (axes ++ (slots.take i).filterMap (·.axis? t))) ∧
      (slot.NeedsNeighbour t → unknownBefore unknown slots i = false) ∧ SizeMet recorded size

theorem positionMet_succ {slot : StrideSlot} {slots : List StrideSlot} {recorded : Option Int64}
    {others : List (Option Int64)} {size : Int64} {sizes : List Int64} {i : Nat} :
    PositionMet t axes unknown (slot :: slots) (recorded :: others) (size :: sizes) (i + 1) ↔
      PositionMet t (axes ++ (slot.axis? t).toList) slot.index.isNone slots others sizes i := by
  have visited : axes ++ ((slot :: slots).take (i + 1)).filterMap (·.axis? t) =
      axes ++ (slot.axis? t).toList ++ (slots.take i).filterMap (·.axis? t) := by
    cases h : slot.axis? t <;> simp [h]
  have before : unknownBefore unknown (slot :: slots) (i + 1) =
      unknownBefore slot.index.isNone slots i := by
    cases i <;> simp [unknownBefore]
  simp only [PositionMet, List.getElem?_cons_succ, visited, before]

theorem value_checkFrom_eq_true_iff {slots : List StrideSlot} {others : List (Option Int64)}
    {sizes : List Int64} (h : position = 0 → axes = []) :
    (checkFrom t (.after axes) position unknown slots others sizes).run.value = .ok true ↔
      ∀ i, PositionMet t axes unknown slots others sizes i := by
  induction slots generalizing axes position unknown others sizes with
  | nil => simp [checkFrom, PositionMet]
  | cons slot slots ih =>
    cases others with
    | nil => simp [checkFrom, PositionMet]
    | cons recorded others =>
      cases sizes with
      | nil => simp [checkFrom, PositionMet]
      | cons size sizes =>
        rw [value_checkFrom_cons_eq_true_iff h, ih (by simp)]
        have first : PositionMet t axes unknown (slot :: slots) (recorded :: others) (size :: sizes) 0 ↔
            slot.Met t (Walk.referenceOf axes) ∧ (slot.NeedsNeighbour t → unknown = false) ∧
              SizeMet recorded size := by
          simp [PositionMet, unknownBefore]
        rw [← Nat.and_forall_add_one (p := PositionMet t axes unknown _ _ _), first]
        simp only [positionMet_succ, and_assoc]

end Run

theorem forall_positionMet_iff {s : Signature} {t : Tensor} (hsizes : t.ndim ≤ s.sizes.length)
    (hslots : t.ndim ≤ s.slots.length) :
    (∀ i, PositionMet t [] false s.slots s.sizes t.sizes i) ↔
      (∀ p < t.ndim, ∀ slot ∈ s.slots[p]?, slot.Met t (s.reference? t p)) ∧
      (∀ p < t.ndim, ∀ recorded ∈ s.sizes[p]?, ∀ size ∈ t.sizes[p]?, SizeMet recorded size) ∧
      ∀ p, p + 1 < t.ndim → ∀ slot ∈ s.slots[p + 1]?, slot.NeedsNeighbour t →
        ∃ inner ∈ s.slots[p]?, inner.index.isSome = true := by
  constructor
  · intro h
    -- Within the rank every position has a slot, a recorded size and a size.
    have at_ (p : Nat) (hp : p < t.ndim) (slot : StrideSlot) (hslot : slot ∈ s.slots[p]?) :=
      h p slot hslot _ (List.getElem?_eq_getElem (Nat.lt_of_lt_of_le hp hsizes)) _ (List.getElem?_eq_getElem hp)
    refine ⟨fun p hp slot hslot => (at_ p hp slot hslot).1, ?_, ?_⟩
    · intro p hp recorded hrecorded size hsize
      exact (h p _ (List.getElem?_eq_getElem (Nat.lt_of_lt_of_le hp hslots)) recorded hrecorded size hsize).2.2
    · intro p hp slot hslot needs
      have known := (at_ (p + 1) hp slot hslot).2.1 needs
      have there := List.getElem?_eq_getElem (Nat.lt_of_lt_of_le (Nat.lt_of_succ_lt hp) hslots)
      refine ⟨_, there, ?_⟩
      simpa [unknownBefore, there] using known
  · intro ⟨slots, sizes, neighbour⟩ i slot hslot recorded hrecorded size hsize
    have hi : i < t.ndim := (List.getElem?_eq_some_iff.1 hsize).1
    refine ⟨slots i hi slot hslot, ?_, sizes i hi recorded hrecorded size hsize⟩
    intro needs
    cases i with
    | zero => rfl
    | succ p =>
      obtain ⟨inner, hinner, hindex⟩ := neighbour p hi slot hslot needs
      rw [Option.mem_def] at hinner
      simpa [unknownBefore, hinner] using hindex

theorem value_ite_eq_true_iff {c : Prop} [Decidable c] {a b : Attempt Fault Bool}
    (h : a.run.value ≠ .ok true) :
    (if c then a else b).run.value = .ok true ↔ ¬c ∧ b.run.value = .ok true := by
  by_cases hc : c <;> simp [hc, h]

theorem any_bne_eq_true_iff {α : Type} [DecidableEq α] {o : Option α} {a : α} :
    o.any (· != a) = true ↔ ¬∀ b ∈ o, b = a := by
  cases o <;> simp

theorem value_complies_eq_true_iff {s : Signature} {t : Tensor} {gradMode : Bool} :
    (s.complies t gradMode).run.value = .ok true ↔ s.Fits t gradMode ∧ s.Consistent t := by
  rw [complies]
  cases hr : s.rank with
  | none =>
    simp only [value_fault, reduceCtorEq, false_iff]
    intro ⟨fits, _⟩
    simp [fits.rank] at hr
  | some rank =>
    dsimp only
    rw [value_ite_eq_true_iff (by simp), value_ite_eq_true_iff (by simp), value_ite_eq_true_iff (by simp),
      value_ite_eq_true_iff (by simp), value_ite_eq_true_iff (by simp), any_bne_eq_true_iff,
      any_bne_eq_true_iff, any_bne_eq_true_iff, ← Walk.after_nil, value_checkFrom_eq_true_iff (fun _ => rfl)]
    simp only [ne_eq, not_not, not_or, Nat.not_lt]
    constructor
    · intro ⟨rank, elementType, device, requiresGrad, ⟨hsizes, hslots⟩, positions⟩
      subst rank
      obtain ⟨slots, sizes, neighbour⟩ := (forall_positionMet_iff hsizes hslots).1 positions
      exact ⟨⟨hr, elementType, device, requiresGrad, slots, sizes⟩, hsizes, hslots, neighbour⟩
    · intro ⟨fits, consistent⟩
      have hrank : rank = t.ndim := by simpa [hr] using fits.rank
      subst hrank
      refine ⟨rfl, fits.elementType, fits.device, fits.requiresGrad,
        ⟨consistent.sizes_length, consistent.slots_length⟩, ?_⟩
      rw [forall_positionMet_iff consistent.sizes_length consistent.slots_length]
      exact ⟨fits.slots, fits.sizes, consistent.neighbour⟩

/-- A signature whose positions make sense together, whatever tensor they are checked against. -/
structure WellFormed (s : Signature) (rank : Nat) : Prop where
  rank_eq : s.rank = some rank
  sizes_length : rank ≤ s.sizes.length
  slots_length : rank ≤ s.slots.length
  index_lt : ∀ p < rank, ∀ slot ∈ s.slots[p]?, ∀ dim ∈ slot.index, dim < rank
  neighbour : ∀ p, p + 1 < rank → ∀ slot ∈ s.slots[p + 1]?, slot.index.isSome = true →
    slot.contiguous = true → ∃ inner ∈ s.slots[p]?, inner.index.isSome = true

theorem WellFormed.consistent {s : Signature} {t : Tensor} (h : s.WellFormed t.ndim) : s.Consistent t where
  sizes_length := h.sizes_length
  slots_length := h.slots_length
  neighbour p hp slot hslot needs := by
    obtain ⟨contiguous, a, ha, _⟩ := needs
    apply h.neighbour p hp slot hslot _ contiguous
    obtain ⟨dim, hdim, _⟩ := Option.bind_eq_some_iff.1 ha
    simp [hdim]

section NoFault

variable {t : Tensor} {w : Walk} {position : Nat} {unknown : Bool}

theorem checkSlot_ne_fault {slot : StrideSlot} {c : Cause}
    (hindex : ∀ dim ∈ slot.index, dim < t.ndim)
    (hlinked : slot.index.isSome = true → slot.contiguous = true → unknown = false) :
    checkSlot t w position unknown slot ≠ .fault c := by
  unfold checkSlot
  cases h : slot.index with
  | none => simp
  | some dim =>
    obtain ⟨a, ha⟩ := Tensor.exists_axis? (hindex dim h)
    have neighbour : (slot.contiguous && unknown) = false := by
      cases hc : slot.contiguous with
      | false => rfl
      | true => rw [hlinked (by simp [h]) hc, Bool.and_false]
    simp only [ha, neighbour, Bool.false_and]
    grind

theorem exists_value_checkFrom {slots : List StrideSlot} {others : List (Option Int64)} {sizes : List Int64}
    (hindex : ∀ i < sizes.length, ∀ slot ∈ slots[i]?, ∀ dim ∈ slot.index, dim < t.ndim)
    (hlinked : ∀ i < sizes.length, ∀ slot ∈ slots[i]?, slot.index.isSome = true →
      slot.contiguous = true → unknownBefore unknown slots i = false) :
    ∃ b, (checkFrom t w position unknown slots others sizes).run.value = .ok b := by
  induction slots generalizing w position unknown others sizes with
  | nil => exact ⟨true, by simp [checkFrom]⟩
  | cons slot slots ih =>
    cases others with
    | nil => exact ⟨true, by simp [checkFrom]⟩
    | cons recorded others =>
      cases sizes with
      | nil => exact ⟨true, by simp [checkFrom]⟩
      | cons size sizes =>
        rw [checkFrom]
        cases hs : checkSlot t w position unknown slot with
        | fault c =>
          exact absurd hs (checkSlot_ne_fault (hindex 0 (by simp) slot rfl) (hlinked 0 (by simp) slot rfl))
        | mismatch e => exact ⟨false, rfl⟩
        | beyond w' =>
          cases checkSize position recorded size with
          | some e => exact ⟨false, rfl⟩
          | none =>
            apply ih
            · intro i hi
              exact hindex (i + 1) (by simpa using hi)
            · intro i hi next hnext known contiguous
              have before := hlinked (i + 1) (by simpa using hi) next hnext known contiguous
              cases i <;> simpa [unknownBefore] using before

end NoFault

theorem WellFormed.exists_value_complies {s : Signature} {rank : Nat} (h : s.WellFormed rank) (t : Tensor)
    (gradMode : Bool) : ∃ b, (s.complies t gradMode).run.value = .ok b := by
  rw [complies, h.rank_eq]
  dsimp only
  split
  · exact ⟨false, rfl⟩
  case isFalse hr =>
    obtain rfl := Decidable.of_not_not hr
    split
    · exact ⟨false, rfl⟩
    split
    · exact ⟨false, rfl⟩
    split
    · exact ⟨false, rfl⟩
    rw [if_neg (by simpa using ⟨h.sizes_length, h.slots_length⟩)]
    apply exists_value_checkFrom
    · exact h.index_lt
    · intro i hi slot hslot known contiguous
      cases i with
      | zero => rfl
      | succ p =>
        obtain ⟨inner, hinner, there⟩ := h.neighbour p hi slot hslot known contiguous
        rw [Option.mem_def] at hinner
        simpa [unknownBefore, hinner] using there

theorem WellFormed.value_complies_eq_true_iff {s : Signature} {rank : Nat} (h : s.WellFormed rank)
    (t : Tensor) (gradMode : Bool) :
    (s.complies t gradMode).run.value = .ok true ↔ s.Fits t gradMode := by
  rw [Signature.value_complies_eq_true_iff, and_iff_left_iff_imp]
  intro fits
  obtain rfl : rank = t.ndim := Option.some.inj (h.rank_eq.symm.trans fits.rank)
  exact h.consistent

theorem WellFormed.value_complies_eq {s : Signature} {rank : Nat} (h : s.WellFormed rank) {t : Tensor}
    {gradMode b : Bool} (fits : s.Fits t gradMode ↔ b = true) :
    (s.complies t gradMode).run.value = .ok b := by
  obtain ⟨answer, ha⟩ := h.exists_value_complies t gradMode
  have accepts := (h.value_complies_eq_true_iff t gradMode).trans fits
  rw [ha, Except.ok.injEq, ← Bool.eq_iff_iff] at accepts
  rw [ha, accepts]

theorem complies_decides_fits {s : Signature} {rank : Nat} (h : s.WellFormed rank) (t : Tensor)
    (gradMode : Bool) :
    ((s.complies t gradMode).run.value = .ok true ↔ s.Fits t gradMode) ∧
      ((s.complies t gradMode).run.value = .ok false ↔ ¬s.Fits t gradMode) := by
  refine ⟨h.value_complies_eq_true_iff t gradMode, ?_⟩
  rw [← h.value_complies_eq_true_iff]
  obtain ⟨b, hb⟩ := h.exists_value_complies t gradMode
  cases b <;> simp [hb]

theorem fits_size_one_out_of_line :
    let s : Signature :=
      { rank := some 3, sizes := [none, some 1, some 3], slots := [⟨some 2, true⟩, ⟨some 1, true⟩, ⟨some 0, true⟩] }
    let t : Tensor := ⟨[4, 1, 3], [3, 100, 1], .float, .cpu, false, rfl, by simp⟩
    s.WellFormed 3 ∧ s.Fits t true := by
  intro s t
  have wellFormed : s.WellFormed 3 := by
    refine ⟨rfl, by decide, by decide, by decide, ?_⟩
    intro p hp
    obtain rfl | rfl : p = 0 ∨ p = 1 := by omega
    · decide
    · decide
  exact ⟨wellFormed, (complies_decides_fits wellFormed t true).1.1 (by decide)⟩

end Signature

end FusionGuards
