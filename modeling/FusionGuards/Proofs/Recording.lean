import FusionGuards.Proofs.Compliance
import Mathlib.Data.List.Forall2

namespace FusionGuards.Signature

theorem fasterOrEqual_iff {a b : Axis} :
    fasterOrEqual a b = true ↔
      a.stride.toInt < b.stride.toInt ∨ a.stride.toInt = b.stride.toInt ∧ b.dim ≤ a.dim := by
  simp [fasterOrEqual, Int64.lt_iff_toInt_lt, Int64.toInt_inj]

def strideOrder (t : Tensor) : List Axis := t.axes.mergeSort fasterOrEqual

theorem mem_strideOrder {t : Tensor} {a : Axis} (h : a ∈ strideOrder t) : t.axis? a.dim = some a := by
  rw [strideOrder, List.mem_mergeSort] at h
  obtain ⟨i, hi⟩ := List.mem_iff_getElem?.1 h
  obtain rfl : a.dim = i := (Tensor.axis?_eq_some_iff.1 hi).1
  exact hi

@[simp] theorem length_strideOrder (t : Tensor) : (strideOrder t).length = t.ndim := by
  simp [strideOrder]

theorem strideOrder_sorted (t : Tensor) :
    (strideOrder t).Pairwise fun a b => fasterOrEqual a b = true := by
  apply List.pairwise_mergeSort
  · intro a b c
    simp only [fasterOrEqual_iff]
    omega
  · intro a b
    simp only [Bool.or_eq_true, fasterOrEqual_iff]
    omega

theorem strideOrder_pairwise (t : Tensor) :
    (strideOrder t).Pairwise fun a b => a.stride ≤ b.stride := by
  apply (strideOrder_sorted t).imp
  intro a b h
  rw [fasterOrEqual_iff] at h
  rw [Int64.le_iff_toInt_le]
  omega

theorem strideOrder_eq {t : Tensor} {axes : List Axis} (perm : axes.Perm t.axes)
    (sorted : axes.Pairwise fun a b => fasterOrEqual a b = true) : strideOrder t = axes := by
  have same : (strideOrder t).Perm axes := (List.mergeSort_perm _ _).trans perm.symm
  apply List.Perm.eq_of_pairwise (fun a b ha hb hab hba => ?_) (strideOrder_sorted t) sorted same
  have dims : a.dim = b.dim := by
    rw [fasterOrEqual_iff] at hab hba
    omega
  have there := mem_strideOrder (same.mem_iff.2 hb)
  rw [← dims, mem_strideOrder ha] at there
  exact Option.some.inj there

section Slots

variable {t : Tensor} {axes : List Axis}

theorem getElem?_slotsFrom (visited : List Axis) (position i : Nat) :
    (slotsFrom (.after visited) position axes)[i]? = axes[i]?.map fun a =>
      ⟨some a.dim, (Walk.after (visited ++ axes.take i)).contiguousAt (position + i) a⟩ := by
  induction axes generalizing visited position i with
  | nil => simp [slotsFrom]
  | cons a axes ih =>
    cases i with
    | zero => simp [slotsFrom]
    | succ i =>
      have next := ih (visited ++ [a]) (position + 1) i
      simpa [slotsFrom, Nat.add_right_comm, Nat.add_assoc] using next

theorem filterMap_take_slotsFrom (h : ∀ a ∈ axes, t.axis? a.dim = some a) (w : Walk) (position i : Nat) :
    ((slotsFrom w position axes).take i).filterMap (·.axis? t) = axes.take i := by
  induction axes generalizing w position i with
  | nil => simp [slotsFrom]
  | cons a axes ih =>
    cases i with
    | zero => simp
    | succ i =>
      have ha : t.axis? a.dim = some a := h a (by simp)
      simp only [slotsFrom, List.take_succ_cons]
      rw [List.filterMap_cons_some (by simpa [StrideSlot.axis?] using ha)]
      rw [ih (fun b hb => h b (by simp [hb]))]

@[simp] theorem length_slotsFrom (w : Walk) (position : Nat) :
    (slotsFrom w position axes).length = axes.length := by
  induction axes generalizing w position with
  | nil => rfl
  | cons a axes ih => simp [slotsFrom, ih]

theorem slotsFrom_concat (visited : List Axis) (position : Nat) (a : Axis) :
    slotsFrom (.after visited) position (axes ++ [a]) = slotsFrom (.after visited) position axes ++
      [⟨some a.dim, (Walk.after (visited ++ axes)).contiguousAt (position + axes.length) a⟩] := by
  induction axes generalizing visited position with
  | nil => simp [slotsFrom]
  | cons b axes ih =>
    have next := ih (visited ++ [b]) (position + 1)
    simpa [slotsFrom, Nat.add_assoc, Nat.add_comm 1] using next

end Slots

section Recorded

variable (t : Tensor) (gradMode : Bool)

theorem slots_of (i : Nat) :
    (of t gradMode).slots[i]? = (strideOrder t)[i]?.map fun a =>
      ⟨some a.dim, (Walk.after ((strideOrder t).take i)).contiguousAt i a⟩ := by
  change (slotsFrom (.after []) 0 (strideOrder t))[i]? = _
  rw [getElem?_slotsFrom, List.nil_append, Nat.zero_add]

@[simp] theorem length_slots_of : (of t gradMode).slots.length = t.ndim := by
  change (slotsFrom {} 0 (strideOrder t)).length = _
  simp

theorem reference?_of (i : Nat) :
    (of t gradMode).reference? t i = Walk.referenceOf ((strideOrder t).take i) := by
  rw [reference?]
  congr 1
  exact filterMap_take_slotsFrom (fun a ha => mem_strideOrder ha) {} 0 i

theorem wellFormed_of : (of t gradMode).WellFormed t.ndim where
  rank_eq := rfl
  sizes_length := by simp [of, Tensor.ndim]
  slots_length := by simp
  index_lt p _ slot hslot dim hdim := by
    rw [Option.mem_def, slots_of, Option.map_eq_some_iff] at hslot
    obtain ⟨a, ha, rfl⟩ := hslot
    obtain rfl : a.dim = dim := Option.some.inj hdim
    have there := (Tensor.axis?_eq_some_iff.1 (mem_strideOrder (List.mem_of_getElem? ha))).2.1
    exact (List.getElem?_eq_some_iff.1 there).1
  neighbour p hp _ _ _ _ := by
    have there : p < (strideOrder t).length := by simpa using Nat.lt_of_succ_lt hp
    simp only [slots_of, List.getElem?_eq_getElem there]
    exact ⟨_, rfl, rfl⟩

theorem strideOrder_follows {i : Nat} {a : Axis} (h : (strideOrder t)[i]? = some a) :
    a.Follows (Walk.referenceOf ((strideOrder t).take i)) := by
  intro e he
  right
  have sorted := strideOrder_pairwise t
  rw [← List.take_append_drop i (strideOrder t), List.pairwise_append] at sorted
  apply sorted.2.2 e (Walk.mem_of_mem_referenceOf he).1
  exact List.mem_of_getElem? (i := 0) (by simpa using h)

theorem fits_of {g₁ g₂ : Bool} (h : (t.requiresGrad && g₁) = (t.requiresGrad && g₂)) :
    (of t g₁).Fits t g₂ where
  rank := rfl
  elementType := by simp [of]
  device := by simp [of]
  requiresGrad := by simp [of, Tensor.effectiveGrad, h]
  slots p _ slot hslot dim hdim := by
    rw [Option.mem_def, slots_of, Option.map_eq_some_iff] at hslot
    obtain ⟨a, ha, rfl⟩ := hslot
    obtain rfl : a.dim = dim := Option.some.inj hdim
    refine ⟨a, mem_strideOrder (List.mem_of_getElem? ha), ?_, ?_⟩
    · rw [reference?_of]
      exact strideOrder_follows t ha
    · intro marked
      rw [reference?_of]
      exact (Walk.contiguousAt_after (by simp +contextual)).1 marked
  sizes p hp recorded hrecorded size hsize := by
    have same : recorded = some size := by simpa [of, Option.mem_def.1 hsize, eq_comm] using hrecorded
    simp [SizeMet, same]

end Recorded

def SizeAlike (a b : Int64) : Prop := (a = 1 ↔ b = 1) ∧ (a = 0 ↔ b = 0)

section Other

variable {t u : Tensor} {g₁ g₂ : Bool}

theorem Fits.sizes_alike (fits : (of t g₁).Fits u g₂) : List.Forall₂ SizeAlike t.sizes u.sizes := by
  have rank : t.ndim = u.ndim := Option.some.inj fits.rank
  rw [List.forall₂_iff_get]
  refine ⟨rank, fun p ht hu => ?_⟩
  have recorded : (of t g₁).sizes[p]? = some (some t.sizes[p]) := by simp [of, ht]
  exact fits.sizes p hu _ recorded _ (List.getElem?_eq_getElem hu) _ rfl

theorem fits_of_slots_eq (elementType : t.elementType = u.elementType) (device : t.device = u.device)
    (requiresGrad : (t.requiresGrad && g₁) = (u.requiresGrad && g₂))
    (sizes : List.Forall₂ SizeAlike t.sizes u.sizes) (slots : (of t g₁).slots = (of u g₂).slots) :
    (of t g₁).Fits u g₂ where
  rank := congrArg some sizes.length_eq
  elementType := by simp [of, elementType]
  device := by simp [of, device]
  requiresGrad := by simp [of, Tensor.effectiveGrad, requiresGrad]
  slots p hp := by
    have own := (fits_of u rfl : (of u g₂).Fits u g₂).slots p hp
    rw [reference?] at own ⊢
    rwa [slots]
  sizes p _ recorded hrecorded size hsize r hr := by
    obtain ⟨hu, rfl⟩ := List.getElem?_eq_some_iff.1 hsize
    have ht : p < t.sizes.length := sizes.length_eq.symm ▸ hu
    obtain rfl : recorded = some t.sizes[p] := by simpa [of, ht, eq_comm] using hrecorded
    obtain rfl : t.sizes[p] = r := Option.some.inj hr
    exact sizes.get ht hu

end Other

/-- A tensor complies with what was recorded of it, unless it requires gradients and the mode has changed since. -/
theorem complies_of (t : Tensor) (g₁ g₂ : Bool) :
    ((of t g₁).complies t g₂).run.value = .ok (!t.requiresGrad || g₁ == g₂) := by
  have accepts := (wellFormed_of t g₁).value_complies_eq_true_iff t g₂
  have same : (of t g₁).Fits t g₂ ↔ (t.requiresGrad && g₁) = (t.requiresGrad && g₂) :=
    ⟨fun fits => fits.requiresGrad _ rfl, fits_of t⟩
  obtain ⟨b, hb⟩ := (wellFormed_of t g₁).exists_value_complies t g₂
  rw [hb, Except.ok.injEq, same] at accepts
  rw [hb, Except.ok.injEq, Bool.eq_iff_iff, accepts]
  cases t.requiresGrad <;> simp

end FusionGuards.Signature
