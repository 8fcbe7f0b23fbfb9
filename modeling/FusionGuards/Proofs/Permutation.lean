import FusionGuards.Proofs.Malformed
import Mathlib.Algebra.BigOperators.Group.List.Basic
import Mathlib.Algebra.BigOperators.Ring.List
import Mathlib.Data.List.TakeWhile

/-! What a view resolves to depends on its input through the checked product of the sizes, and that depends on their
order only where one of them is zero: the product up to the first zero may fit in one order and not in another. -/

namespace FusionGuards

namespace Word

def beforeZero (xs : List Int64) : List Int64 := xs.takeWhile (· ≠ 0)

def FitsBeforeZero (xs : List Int64) : Prop := Fits (total (beforeZero xs))

instance (xs : List Int64) : Decidable (FitsBeforeZero xs) := inferInstanceAs (Decidable (Fits _))

variable {xs ys : List Int64}

theorem total_perm (perm : xs.Perm ys) : total xs = total ys := (perm.map Int64.toInt).prod_eq

theorem total_eq_zero (mem : 0 ∈ xs) : total xs = 0 := List.prod_eq_zero (List.mem_map_of_mem mem)

theorem PrefixesFit.of_prefix (h : PrefixesFit ys) (before : xs <+: ys) : PrefixesFit xs := by
  intro n
  rw [List.prefix_iff_eq_take.1 before, List.take_take]
  exact h _

theorem take_beforeZero {n : Nat} (nonzero : 0 ∉ xs.take n) : (beforeZero xs).take n = xs.take n := by
  induction xs generalizing n with
  | nil => rfl
  | cons x xs ih =>
    cases n with
    | zero => rfl
    | succ n =>
      rw [List.take_succ_cons, List.mem_cons, not_or] at nonzero
      have head : beforeZero (x :: xs) = x :: beforeZero xs := by simp [beforeZero, Ne.symm nonzero.1]
      rw [head, List.take_succ_cons, List.take_succ_cons, ih nonzero.2]

theorem prefixesFit_iff_prefixesFit_beforeZero : PrefixesFit xs ↔ PrefixesFit (beforeZero xs) := by
  refine ⟨fun h => h.of_prefix (List.takeWhile_prefix _), fun h n => ?_⟩
  by_cases mem : 0 ∈ xs.take n
  · rw [total_eq_zero mem]
    decide
  · rw [← take_beforeZero mem]
    exact h n

section Nonnegative

variable (nonneg : ∀ x ∈ xs, 0 ≤ x)

include nonneg

theorem one_le_of_mem {x : Int64} (mem : x ∈ xs) (nonzero : x ≠ 0) : 1 ≤ x := by
  have lower := Int64.le_iff_toInt_le.1 (nonneg x mem)
  rw [Ne, ← Int64.toInt_inj] at nonzero
  rw [Int64.le_iff_toInt_le]
  exact lt_of_le_of_ne lower (Ne.symm nonzero)

theorem prefixesFit_iff_fitsBeforeZero : PrefixesFit xs ↔ FitsBeforeZero xs := by
  rw [prefixesFit_iff_prefixesFit_beforeZero, FitsBeforeZero]
  apply prefixesFit_iff_of_pos
  intro x mem
  exact one_le_of_mem nonneg ((List.takeWhile_prefix _).subset mem) (by simpa using List.mem_takeWhile_imp mem)

theorem prefixesFit_perm_of_nonzero (perm : xs.Perm ys) (nonzero : 0 ∉ xs) : PrefixesFit xs ↔ PrefixesFit ys := by
  have pos : ∀ x ∈ xs, 1 ≤ x := fun x mem => one_le_of_mem nonneg mem (ne_of_mem_of_not_mem mem nonzero)
  rw [prefixesFit_iff_of_pos pos, prefixesFit_iff_of_pos fun y mem => pos y (perm.mem_iff.2 mem), total_perm perm]

end Nonnegative

theorem product?_perm (perm : xs.Perm ys) (same : PrefixesFit xs ↔ PrefixesFit ys) : product? xs = product? ys := by
  by_cases fit : PrefixesFit xs
  · obtain ⟨a, ha, total_eq⟩ := fit.exists_product?
    rw [ha, product?_eq_some_iff.2 ⟨total_eq.trans (total_perm perm), same.1 fit⟩]
  · rw [product?_eq_none_iff.2 fit, product?_eq_none_iff.2 (same.not.1 fit)]

end Word

namespace View

variable {sizes other view : List Int64}

theorem infer_congr (same : Word.product? sizes = Word.product? other) (view : List Int64) :
    infer sizes view = infer other view := by
  simp only [infer, same]

/-- A request that is not answered for its own sake is not answered whatever the sizes are. -/
theorem value_infer_of_unscanned (unfit : ¬(Requested view ∧ Word.Fits (Word.total (explicit view))))
    (sizes other : List Int64) : (infer sizes view).run.value = (infer other view).run.value := by
  by_cases requested : Requested view
  · have wide : ¬Word.Fits (Word.total (explicit view)) := fun fits => unfit ⟨requested, fits⟩
    rw [requested.value_infer_of_unfit (mt And.left wide), requested.value_infer_of_unfit (mt And.left wide)]
  · obtain ⟨before, cause, breaks⟩ := exists_breaks requested
    rw [breaks.value_infer, breaks.value_infer]

theorem Requested.value_infer_of_empty (h : Requested view) (fits : Word.Fits (Word.total (explicit view)))
    (nonneg : ∀ s ∈ sizes, 0 ≤ s) (empty : 0 ∈ sizes) :
    (infer sizes view).run.value =
      .ok (if Word.FitsBeforeZero sizes then some (close view 0) else none) := by
  have fit := Word.prefixesFit_iff_fitsBeforeZero nonneg
  split
  case isTrue before =>
    have prefixes := fit.2 before
    obtain ⟨divisor, hd, _⟩ := ((Word.prefixesFit_iff_of_pos h.one_le_explicit).2 fits).exists_product?
    have none : Word.product? sizes = some 0 :=
      Word.product?_eq_some_iff.2 ⟨(Word.total_eq_zero empty).symm, prefixes⟩
    rw [h.value_infer hd none, Word.total_eq_zero empty, if_pos (Int.dvd_zero _)]
    simp
  case isFalse wide => exact h.value_infer_of_unfit fun both => wide (fit.1 both.2)

/-- Permuting sizes changes what a view resolves to only if one of them is zero, the request could be answered, and
the product before the first zero fits in one order and not in the other. -/
theorem infer_perm_iff (nonneg : ∀ s ∈ sizes, 0 ≤ s) (perm : sizes.Perm other) (view : List Int64) :
    ((infer sizes view).run.value = (infer other view).run.value ↔
      (0 ∈ sizes → Requested view → Word.Fits (Word.total (explicit view)) →
        (Word.FitsBeforeZero sizes ↔ Word.FitsBeforeZero other))) ∧
    (0 ∈ sizes → Requested view → Word.Fits (Word.total (explicit view)) →
      Word.FitsBeforeZero sizes → ¬Word.FitsBeforeZero other →
      (infer sizes view).run.value = .ok (some (close view 0)) ∧ (infer other view).run.value = .ok none) := by
  have nonneg' : ∀ s ∈ other, 0 ≤ s := fun s mem => nonneg s (perm.mem_iff.2 mem)
  have value (empty : 0 ∈ sizes) (h : Requested view) (fits : Word.Fits (Word.total (explicit view))) :=
    And.intro (h.value_infer_of_empty fits nonneg empty) (h.value_infer_of_empty fits nonneg' (perm.mem_iff.1 empty))
  refine ⟨⟨fun same empty h fits => ?_, fun torn => ?_⟩, fun empty h fits narrow wide => ?_⟩
  · obtain ⟨one, two⟩ := value empty h fits
    rw [one, two, Except.ok.injEq] at same
    by_cases narrow : Word.FitsBeforeZero sizes
    · refine iff_of_true narrow ?_
      by_contra wide
      rw [if_pos narrow, if_neg wide] at same
      cases same
    · refine iff_of_false narrow fun narrow' => ?_
      rw [if_neg narrow, if_pos narrow'] at same
      cases same
  · by_cases scanned : Requested view ∧ Word.Fits (Word.total (explicit view))
    · have fit : Word.PrefixesFit sizes ↔ Word.PrefixesFit other := by
        -- Without a zero the whole product is the largest, in either order.
        by_cases empty : 0 ∈ sizes
        · rw [Word.prefixesFit_iff_fitsBeforeZero nonneg, Word.prefixesFit_iff_fitsBeforeZero nonneg']
          exact torn empty scanned.1 scanned.2
        · exact Word.prefixesFit_perm_of_nonzero nonneg perm empty
      rw [infer_congr (Word.product?_perm perm fit)]
    · exact value_infer_of_unscanned scanned sizes other
  · obtain ⟨one, two⟩ := value empty h fits
    exact ⟨one.trans (by rw [if_pos narrow]), two.trans (by rw [if_neg wide])⟩

theorem infer_perm_iff_zero :
    let sizes : List Int64 := [3, 0, 4611686018427387904]
    let fitting : List Int64 := [0, 4611686018427387904, 3]
    let wide : List Int64 := [4611686018427387904, 3, 0]
    let view : List Int64 := [-1, 5]
    (∀ s ∈ sizes, 0 ≤ s) ∧ sizes.Perm fitting ∧ sizes.Perm wide ∧
      (infer sizes view).run.value = (infer fitting view).run.value ∧
      (infer sizes view).run.value = .ok (some [0, 5]) ∧ (infer wide view).run.value = .ok none := by
  intro sizes fitting wide view
  have nonneg : ∀ s ∈ sizes, 0 ≤ s := by simp [sizes]
  have turned : sizes.Perm fitting := (List.Perm.swap _ _ _).trans (.cons _ (.swap _ _ _))
  have moved : sizes.Perm wide := turned.trans ((List.Perm.swap _ _ _).trans (.cons _ (.swap _ _ _)))
  have requested : Requested view := ⟨by decide, by simp [view, openAxis]⟩
  have same := (infer_perm_iff nonneg turned view).1.2 fun _ _ _ => by decide
  have torn := (infer_perm_iff nonneg moved view).2 (by decide) requested (by decide) (by decide) (by decide)
  exact ⟨nonneg, turned, moved, same, torn⟩

theorem infer_not_perm :
    let sizes : List Int64 := [4611686018427387904, 4, 0]
    let other : List Int64 := [0, 4611686018427387904, 4]
    (∀ s ∈ sizes, 0 ≤ s) ∧ sizes.Perm other ∧
      (infer sizes [-1]).run.value = .ok none ∧ (infer other [-1]).run.value = .ok (some [0]) ∧
      ¬((infer sizes [-1]).run.value = (infer other [-1]).run.value) := by
  intro sizes other
  have moved : sizes.Perm other := (List.Perm.cons _ (.swap _ _ _)).trans (.swap _ _ _)
  have wide : (infer sizes [-1]).run.value = .ok none := by rfl
  have empty : (infer other [-1]).run.value = .ok (some [0]) := by rfl
  refine ⟨by simp [sizes], moved, wide, empty, ?_⟩
  rw [wide, empty]
  rintro ⟨⟩

end View

end FusionGuards
