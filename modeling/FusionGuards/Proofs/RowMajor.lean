import FusionGuards.Proofs.Product
import FusionGuards.Proofs.Recording
import Mathlib.Tactic.Linarith

namespace FusionGuards

def blockTotal (sizes : List Int64) : Int := (sizes.map fun s => max s.toInt 1).prod

@[simp] theorem blockTotal_nil : blockTotal [] = 1 := rfl

@[simp] theorem blockTotal_cons (s : Int64) (sizes : List Int64) :
    blockTotal (s :: sizes) = max s.toInt 1 * blockTotal sizes := by
  simp [blockTotal]

theorem one_le_blockTotal (sizes : List Int64) : 1 ≤ blockTotal sizes := by
  apply List.one_le_prod
  intro i hi
  obtain ⟨s, _, rfl⟩ := List.mem_map.1 hi
  exact le_max_right _ _

theorem blockTotal_le_cons (s : Int64) (sizes : List Int64) :
    blockTotal sizes ≤ blockTotal (s :: sizes) := by
  rw [blockTotal_cons]
  exact le_mul_of_one_le_left (by linarith [one_le_blockTotal sizes]) (le_max_right _ _)

theorem blockTotal_tail_le (sizes : List Int64) : blockTotal sizes.tail ≤ blockTotal sizes := by
  cases sizes with
  | nil => exact le_rfl
  | cons s sizes => exact blockTotal_le_cons s sizes

/-- Saturating at every step is saturating once, as no factor is below one. -/
theorem toInt_blockSize (sizes : List Int64) :
    (blockSize sizes).toInt = min (2 ^ 63 - 1) (blockTotal sizes) := by
  induction sizes with
  | nil => rfl
  | cons s sizes ih =>
    have block := one_le_blockTotal sizes
    have factor : 1 ≤ max s.toInt 1 := le_max_right _ _
    have nonneg : 0 ≤ min (2 ^ 63 - 1) (blockTotal sizes) := le_min (by decide) (by omega)
    rw [blockSize, Word.toInt_satMul_of_nonneg, Word.toInt_max_one, ih, blockTotal_cons, Int.mul_comm]
    · by_cases fits : blockTotal sizes ≤ 2 ^ 63 - 1
      · rw [min_eq_right fits]
      · have large := (not_le.1 fits).le
        rw [min_eq_left large, min_eq_left (le_mul_of_one_le_left (by decide) factor),
          min_eq_left (large.trans (le_mul_of_one_le_left (by omega) factor))]
    · rw [Word.toInt_max_one, ih]
      exact mul_nonneg nonneg (by omega)

theorem toInt_blockSize_of_lt {sizes : List Int64} (fits : blockTotal sizes < 2 ^ 63) :
    (blockSize sizes).toInt = blockTotal sizes := by
  rw [toInt_blockSize, min_eq_right (by omega)]

def rowMajorAxes (dim : Nat) (sizes : List Int64) : List Axis :=
  Tensor.axesFrom dim sizes (rowMajorStrides sizes)

@[simp] theorem rowMajorAxes_nil (dim : Nat) : rowMajorAxes dim [] = [] := rfl

@[simp] theorem rowMajorAxes_cons (dim : Nat) (s : Int64) (sizes : List Int64) :
    rowMajorAxes dim (s :: sizes) = ⟨dim, s, blockSize sizes⟩ :: rowMajorAxes (dim + 1) sizes := rfl

theorem le_of_mem_rowMajorAxes {dim : Nat} {sizes : List Int64} {a : Axis}
    (h : a ∈ rowMajorAxes dim sizes) :
    dim ≤ a.dim ∧ a.stride.toInt ≤ (blockSize sizes).toInt := by
  induction sizes generalizing dim with
  | nil => simp at h
  | cons s sizes ih =>
    have grows : (blockSize sizes).toInt ≤ (blockSize (s :: sizes)).toInt := by
      rw [toInt_blockSize, toInt_blockSize]
      exact min_le_min_left _ (blockTotal_le_cons s sizes)
    obtain rfl | h := List.mem_cons.1 h
    · exact ⟨le_rfl, grows⟩
    · obtain ⟨later, small⟩ := ih h
      exact ⟨Nat.le_of_succ_le later, small.trans grows⟩

theorem reverse_rowMajorAxes_sorted (dim : Nat) (sizes : List Int64) :
    (rowMajorAxes dim sizes).reverse.Pairwise fun a b => Signature.fasterOrEqual a b = true := by
  rw [List.pairwise_reverse]
  induction sizes generalizing dim with
  | nil => exact .nil
  | cons s sizes ih =>
    rw [rowMajorAxes_cons, List.pairwise_cons]
    refine ⟨fun a ha => ?_, ih (dim + 1)⟩
    obtain ⟨later, small⟩ := le_of_mem_rowMajorAxes ha
    rw [Signature.fasterOrEqual_iff]
    dsimp only
    omega

theorem strideOrder_of_rowMajor {t : Tensor} (h : t.strides = rowMajorStrides t.sizes) :
    Signature.strideOrder t = (rowMajorAxes 0 t.sizes).reverse := by
  apply Signature.strideOrder_eq
  · rw [Tensor.axes, h]
    exact List.reverse_perm _
  · exact reverse_rowMajorAxes_sorted 0 t.sizes

theorem blockSize_ne_zero {sizes : List Int64} (fits : blockTotal sizes < 2 ^ 63) : blockSize sizes ≠ 0 := by
  intro h
  have stride := toInt_blockSize_of_lt fits
  have pos := one_le_blockTotal sizes
  rw [h] at stride
  change 0 = _ at stride
  omega

/-- What the reference of a row-major block is like: stride times size, or the stride alone if the axis is empty, is the
whole block. It is empty if the first size other than one is zero. -/
structure Axis.Spans (e : Axis) (sizes : List Int64) : Prop where
  stride_pos : 1 ≤ e.stride.toInt
  size_nonneg : 0 ≤ e.size.toInt
  total_eq : e.stride.toInt * max e.size.toInt 1 = blockTotal sizes
  empty_iff : e.size = 0 ↔ sizes.find? (· ≠ 1) = some 0

theorem Axis.Spans.cons_one {e : Axis} {sizes : List Int64} (h : e.Spans sizes) : e.Spans (1 :: sizes) where
  stride_pos := h.stride_pos
  size_nonneg := h.size_nonneg
  total_eq := by simp [h.total_eq]
  empty_iff := by simp [h.empty_iff]

theorem spans_one (dim : Nat) : (⟨dim, 1, 1⟩ : Axis).Spans [1] where
  stride_pos := by simp
  size_nonneg := by simp
  total_eq := by simp
  empty_iff := by simp

theorem spans_of_ne_one (dim : Nat) {s : Int64} {sizes : List Int64} (hs : s ≠ 1) (nonneg : 0 ≤ s)
    (fits : blockTotal sizes < 2 ^ 63) : (⟨dim, s, blockSize sizes⟩ : Axis).Spans (s :: sizes) where
  stride_pos := by
    rw [toInt_blockSize_of_lt fits]
    exact one_le_blockTotal sizes
  size_nonneg := Int64.le_iff_toInt_le.1 nonneg
  total_eq := by rw [toInt_blockSize_of_lt fits, blockTotal_cons, Int.mul_comm]
  empty_iff := by simp [hs]

theorem exists_referenceOf_rowMajorAxes (dim : Nat) {sizes : List Int64} (nonempty : sizes ≠ [])
    (nonneg : ∀ s ∈ sizes, 0 ≤ s) (fits : blockTotal sizes < 2 ^ 63) :
    ∃ e ∈ Walk.referenceOf (rowMajorAxes dim sizes).reverse, e.Spans sizes := by
  induction sizes generalizing dim with
  | nil => exact absurd rfl nonempty
  | cons s sizes ih =>
    obtain ⟨nonneg_head, nonneg_tail⟩ := List.forall_mem_cons.1 nonneg
    have fits_tail : blockTotal sizes < 2 ^ 63 := lt_of_le_of_lt (blockTotal_le_cons s sizes) fits
    rw [rowMajorAxes_cons, List.reverse_cons, Walk.referenceOf_concat]
    by_cases hs : s = 1
    · subst hs
      cases sizes with
      | nil => exact ⟨⟨dim, 1, 1⟩, by simp [blockSize], spans_one dim⟩
      | cons r sizes =>
        obtain ⟨e, he, spans⟩ := ih (dim + 1) (by simp) nonneg_tail fits_tail
        rw [Option.mem_def] at he
        refine ⟨e, ?_, spans.cons_one⟩
        rw [he, if_neg (by simp), Option.mem_def]
    · rw [if_pos ⟨blockSize_ne_zero fits_tail, Or.inr hs⟩]
      exact ⟨_, rfl, spans_of_ne_one dim hs nonneg_head fits_tail⟩

theorem blockTotal_eq_one_iff {sizes : List Int64} (nonneg : ∀ s ∈ sizes, 0 ≤ s) :
    blockTotal sizes = 1 ↔ ∀ s ∈ sizes, s = 1 ∨ s = 0 := by
  induction sizes with
  | nil => simp
  | cons s sizes ih =>
    obtain ⟨nonneg_head, nonneg_tail⟩ := List.forall_mem_cons.1 nonneg
    rw [List.forall_mem_cons, ← ih nonneg_tail, blockTotal_cons, ← Int64.toInt_inj, ← Int64.toInt_inj]
    rw [Int64.le_iff_toInt_le] at nonneg_head
    change 0 ≤ s.toInt at nonneg_head
    change _ ↔ (s.toInt = 1 ∨ s.toInt = 0) ∧ _
    have pos := one_le_blockTotal sizes
    constructor
    · intro h
      have factor : 1 ≤ max s.toInt 1 := le_max_right _ _
      have both : max s.toInt 1 ≤ 1 := by nlinarith
      have small := (le_max_left _ _).trans both
      exact ⟨by omega, by nlinarith⟩
    · rintro ⟨small, one⟩
      rw [one, max_eq_right (by omega), Int.mul_one]

/-- An axis collapses with row-major ones unless the one it would span is empty and there are several elements. -/
theorem collapsesWith_rowMajorAxes_iff (dim : Nat) (s : Int64) {sizes : List Int64}
    (nonneg : ∀ s ∈ sizes, 0 ≤ s) (fits : blockTotal sizes < 2 ^ 63) :
    (⟨dim, s, blockSize sizes⟩ : Axis).CollapsesWith
        (Walk.referenceOf (rowMajorAxes (dim + 1) sizes).reverse) ↔
      s = 1 ∨ (∀ s ∈ sizes, s = 1 ∨ s = 0) ∨ sizes.find? (· ≠ 1) ≠ some 0 := by
  have stride := toInt_blockSize_of_lt fits
  have one : blockSize sizes = 1 ↔ ∀ s ∈ sizes, s = 1 ∨ s = 0 := by
    rw [← blockTotal_eq_one_iff nonneg, ← stride, ← Int64.toInt_inj]
    rfl
  unfold Axis.CollapsesWith
  rw [one]
  apply or_congr_right
  by_cases nonempty : sizes = []
  · simp [nonempty]
  obtain ⟨e, he, pos, size_nonneg, spans, empty⟩ :=
    exists_referenceOf_rowMajorAxes (dim + 1) nonempty nonneg fits
  apply or_congr_right
  rw [Option.mem_def] at he
  have nonzero : e.size = 0 ↔ e.size.toInt = 0 := Int64.toInt_inj.symm
  rw [he, ne_eq, ← empty, nonzero]
  simp only [Option.mem_def, Option.some.injEq, exists_eq_left', stride, ← spans]
  constructor
  · intro h zero
    rw [zero, Int.mul_zero, max_eq_right zero_le_one, Int.mul_one] at h
    omega
  · intro h
    rw [max_eq_left (by omega)]

section Alike

variable {A B : List Int64} (alike : List.Forall₂ Signature.SizeAlike A B)

include alike

theorem forall_one_or_zero_congr : (∀ s ∈ A, s = 1 ∨ s = 0) ↔ ∀ s ∈ B, s = 1 ∨ s = 0 := by
  induction alike with
  | nil => rfl
  | cons head _ ih => rw [List.forall_mem_cons, List.forall_mem_cons, head.1, head.2, ih]

theorem find?_ne_one_eq_zero_congr : A.find? (· ≠ 1) = some 0 ↔ B.find? (· ≠ 1) = some 0 := by
  induction alike with
  | nil => rfl
  | @cons a b A B head _ ih =>
    by_cases ha : a = 1
    · have hb := head.1.1 ha
      simpa [ha, hb] using ih
    · have hb := mt head.1.2 ha
      simpa [ha, hb] using head.2

theorem contiguousAt_rowMajorAxes_congr (dim : Nat) {a b : Int64} (head : Signature.SizeAlike a b)
    (hA : ∀ a ∈ A, 0 ≤ a) (hB : ∀ b ∈ B, 0 ≤ b) (fitsA : blockTotal A < 2 ^ 63)
    (fitsB : blockTotal B < 2 ^ 63) {p q : Nat} (hp : p = 0 → (rowMajorAxes (dim + 1) A).reverse = [])
    (hq : q = 0 → (rowMajorAxes (dim + 1) B).reverse = []) :
    (Walk.after (rowMajorAxes (dim + 1) A).reverse).contiguousAt p ⟨dim, a, blockSize A⟩ =
      (Walk.after (rowMajorAxes (dim + 1) B).reverse).contiguousAt q ⟨dim, b, blockSize B⟩ := by
  rw [Bool.eq_iff_iff, Walk.contiguousAt_after hp, Walk.contiguousAt_after hq,
    collapsesWith_rowMajorAxes_iff dim a hA fitsA, collapsesWith_rowMajorAxes_iff dim b hB fitsB, head.1,
    forall_one_or_zero_congr alike, ne_eq, ne_eq, find?_ne_one_eq_zero_congr alike]

theorem slotsFrom_rowMajorAxes_congr (dim : Nat) (hA : ∀ a ∈ A, 0 ≤ a) (hB : ∀ b ∈ B, 0 ≤ b)
    (fitsA : blockTotal A.tail < 2 ^ 63) (fitsB : blockTotal B.tail < 2 ^ 63) :
    Signature.slotsFrom (.after []) 0 (rowMajorAxes dim A).reverse =
      Signature.slotsFrom (.after []) 0 (rowMajorAxes dim B).reverse := by
  induction alike generalizing dim with
  | nil => rfl
  | @cons a b A B head tail ih =>
    obtain ⟨_, hA⟩ := List.forall_mem_cons.1 hA
    obtain ⟨_, hB⟩ := List.forall_mem_cons.1 hB
    have rest := ih (dim + 1) hA hB (lt_of_le_of_lt (blockTotal_tail_le A) fitsA)
      (lt_of_le_of_lt (blockTotal_tail_le B) fitsB)
    rw [rowMajorAxes_cons, rowMajorAxes_cons, List.reverse_cons, List.reverse_cons,
      Signature.slotsFrom_concat, Signature.slotsFrom_concat, rest, List.nil_append, List.nil_append,
      contiguousAt_rowMajorAxes_congr tail dim head hA hB fitsA fitsB]
    · simp
    · simp

end Alike

namespace Signature

theorem slots_eq_of_rowMajor {t u : Tensor} (ht : t.strides = rowMajorStrides t.sizes)
    (hu : u.strides = rowMajorStrides u.sizes) (alike : List.Forall₂ SizeAlike t.sizes u.sizes)
    (fits : blockTotal t.sizes.tail < 2 ^ 63) (fits' : blockTotal u.sizes.tail < 2 ^ 63) (g₁ g₂ : Bool) :
    (of t g₁).slots = (of u g₂).slots := by
  change slotsFrom (.after []) 0 (strideOrder t) = slotsFrom (.after []) 0 (strideOrder u)
  rw [strideOrder_of_rowMajor ht, strideOrder_of_rowMajor hu]
  exact slotsFrom_rowMajorAxes_congr alike 0 t.sizes_nonneg u.sizes_nonneg fits fits'

theorem complies_of_rowMajor {A B : List Int64} (hA : ∀ a ∈ A, 0 ≤ a) (hB : ∀ b ∈ B, 0 ≤ b)
    (fitsA : blockTotal A.tail < 2 ^ 63) (fitsB : blockTotal B.tail < 2 ^ 63) (elementType : ElementType)
    (device : Device) (requiresGrad gradMode : Bool) :
    ∃ t u, Tensor.rowMajor A elementType device = .ok t ∧ Tensor.rowMajor B elementType device = .ok u ∧
      let answer := ((of (t.withRequiresGrad requiresGrad) gradMode).complies
        (u.withRequiresGrad requiresGrad) gradMode).run.value
      (List.Forall₂ SizeAlike A B → answer = .ok true) ∧ (¬List.Forall₂ SizeAlike A B → answer = .ok false) := by
  refine ⟨_, _, Tensor.ofStrides_eq_ok (by simp) hA elementType device,
    Tensor.ofStrides_eq_ok (by simp) hB elementType device, fun alike => ?_, fun differ => ?_⟩
  · apply (wellFormed_of _ gradMode).value_complies_eq
    rw [iff_true_right rfl]
    exact fits_of_slots_eq rfl rfl rfl alike (slots_eq_of_rowMajor rfl rfl alike fitsA fitsB gradMode gradMode)
  · apply (wellFormed_of _ gradMode).value_complies_eq
    exact iff_of_false (fun fits => differ fits.sizes_alike) Bool.false_ne_true

theorem complies_of_rowMajor_empty :
    List.Forall₂ SizeAlike [2, 1, 0, 3] [5, 1, 0, 7] ∧
      ∃ t u, Tensor.rowMajor [2, 1, 0, 3] .float .cpu = .ok t ∧
        Tensor.rowMajor [5, 1, 0, 7] .float .cpu = .ok u ∧
        ((of (t.withRequiresGrad true) true).complies (u.withRequiresGrad true) true).run.value = .ok true := by
  have alike : List.Forall₂ SizeAlike [2, 1, 0, 3] [5, 1, 0, 7] := by
    repeat' constructor
    all_goals decide
  obtain ⟨t, u, ht, hu, accepts, _⟩ := complies_of_rowMajor (A := [2, 1, 0, 3]) (B := [5, 1, 0, 7])
    (by simp) (by simp) (by decide) (by decide) .float .cpu true true
  exact ⟨alike, t, u, ht, hu, accepts alike⟩

end Signature

end FusionGuards
