import FusionGuards.Tensor.Basic
import Mathlib.Algebra.BigOperators.Fin
import Mathlib.Data.Int.ConditionallyCompleteOrder
import Mathlib.Order.ConditionallyCompleteLattice.Basic
import Mathlib.Order.Interval.Set.Basic

namespace FusionGuards.Tensor

def size (t : Tensor) (dim : Nat) : Nat := (t.sizes.getD dim 0).toInt.toNat

def stride (t : Tensor) (dim : Nat) : Int := (t.strides.getD dim 0).toInt

def numel (t : Tensor) : Nat := ∏ dim : Fin t.ndim, t.size dim

abbrev Index (t : Tensor) : Type := ∀ dim : Fin t.ndim, Fin (t.size dim)

def offset (t : Tensor) (i : t.Index) : Int := ∑ dim : Fin t.ndim, (i dim : Int) * t.stride dim

/-- Dimensions in an order in which each stride is the product of the sizes before it. -/
def Dense (t : Tensor) (order : Equiv.Perm (Fin t.ndim)) : Prop :=
  ∀ p : Fin t.ndim, t.stride (order p) = ∏ q : Fin p, (t.size (order (q.castLE p.is_lt.le)) : Int)

/-- Strides along an order that are one before a position and, from it on, span what lies just inside. -/
structure RisesFrom (t : Tensor) {rank : Nat} (order : Equiv.Perm (Fin rank)) (k : Nat) : Prop where
  pos : 1 ≤ k
  le : k ≤ rank
  ones : ∀ p : Fin rank, p < k → t.stride (order p) = 1
  spans : ∀ p q : Fin rank, q.val + 1 = p → k ≤ p →
    t.stride (order p) = t.stride (order q) * t.size (order q)

theorem size_eq {t : Tensor} {dim : Nat} {a : Axis} (h : t.axis? dim = some a) :
    (t.size dim : Int) = a.size.toInt := by
  obtain ⟨_, hs, _⟩ := axis?_eq_some_iff.1 h
  have nonneg := t.sizes_nonneg a.size (List.mem_of_getElem? hs)
  rw [Int64.le_iff_toInt_le] at nonneg
  rw [size, List.getD_eq_getElem?_getD, hs, Option.getD_some]
  exact Int.toNat_of_nonneg nonneg

theorem stride_eq {t : Tensor} {dim : Nat} {a : Axis} (h : t.axis? dim = some a) :
    t.stride dim = a.stride.toInt := by
  obtain ⟨_, _, ht⟩ := axis?_eq_some_iff.1 h
  rw [stride, List.getD_eq_getElem?_getD, ht, Option.getD_some]

theorem size_eq_one_iff {t : Tensor} {dim : Nat} {a : Axis} (h : t.axis? dim = some a) :
    t.size dim = 1 ↔ a.size = 1 := by
  have one : a.size.toInt = 1 ↔ a.size = 1 := Int64.toInt_inj (y := 1)
  rw [← one, ← size_eq h]
  omega

theorem size_ne_one {t : Tensor} {dim : Nat} {a : Axis} (h : t.axis? dim = some a)
    (large : 2 ≤ t.size dim) : a.size ≠ 1 := by
  rw [ne_eq, ← size_eq_one_iff h]
  omega

theorem stride_eq_one_iff {t : Tensor} {dim : Nat} {a : Axis} (h : t.axis? dim = some a) :
    t.stride dim = 1 ↔ a.stride = 1 := by
  rw [stride_eq h]
  exact Int64.toInt_inj (y := 1)

theorem stride_eq_zero_iff {t : Tensor} {dim : Nat} {a : Axis} (h : t.axis? dim = some a) :
    t.stride dim = 0 ↔ a.stride = 0 := by
  rw [stride_eq h]
  exact Int64.toInt_inj (y := 0)

section Dense

variable {t : Tensor} {order : Equiv.Perm (Fin t.ndim)}

/-- Indices numbered with the coordinate of the first dimension of an order running fastest. -/
def numbering (order : Equiv.Perm (Fin t.ndim)) : t.Index ≃ Fin (∏ p, t.size (order p)) :=
  (Equiv.piCongrLeft (fun dim : Fin t.ndim => Fin (t.size dim)) order).symm.trans finPiFinEquiv

theorem Dense.offset_eq (h : t.Dense order) (i : t.Index) : t.offset i = (numbering order i : Nat) := by
  calc
    t.offset i = ∑ p, (i (order p) : Int) * t.stride (order p) :=
      (Equiv.sum_comp order fun dim => (i dim : Int) * t.stride dim).symm
    _ = ∑ p, (i (order p) : Int) * ∏ q : Fin p, (t.size (order (q.castLE p.is_lt.le)) : Int) := by
      simp only [h _]
    _ = (numbering order i : Nat) := by
      rw [numbering, Equiv.trans_apply, finPiFinEquiv_apply]
      push_cast
      rfl

theorem Dense.injective_offset (h : t.Dense order) : Function.Injective t.offset := by
  intro i j hij
  rw [h.offset_eq, h.offset_eq, Int.natCast_inj, Fin.val_inj] at hij
  exact (numbering order).injective hij

theorem Dense.range_offset (h : t.Dense order) : Set.range t.offset = Set.Ico 0 (t.numel : Int) := by
  have count : ∏ p, t.size (order p) = t.numel := Equiv.prod_comp order fun dim => t.size dim
  ext z
  constructor
  · rintro ⟨i, rfl⟩
    rw [h.offset_eq, ← count]
    exact ⟨Int.natCast_nonneg _, Int.ofNat_lt.2 (numbering order i).is_lt⟩
  · intro ⟨lower, upper⟩
    obtain ⟨n, rfl⟩ := Int.eq_ofNat_of_zero_le lower
    refine ⟨(numbering order).symm ⟨n, ?_⟩, ?_⟩
    · rw [count]
      exact Int.ofNat_lt.1 upper
    · rw [h.offset_eq, Equiv.apply_symm_apply]

theorem RisesFrom.dense (h : t.RisesFrom order 1) : t.Dense order := by
  have product (p : Nat) (hp : p < t.ndim) :
      t.stride (order ⟨p, hp⟩) = ∏ q : Fin p, (t.size (order (q.castLE hp.le)) : Int) := by
    induction p with
    | zero => simpa using h.ones ⟨0, hp⟩ Nat.zero_lt_one
    | succ p ih =>
      rw [Fin.prod_univ_castSucc, h.spans ⟨p + 1, hp⟩ ⟨p, Nat.lt_of_succ_lt hp⟩ rfl (by simp), ih]
      rfl
  intro p
  exact product p p.is_lt

end Dense

section Overlap

variable {t : Tensor}

def unitStep (h : ∀ dim < t.ndim, 2 ≤ t.size dim) (dim : Fin t.ndim) : t.Index :=
  fun d => ⟨if d = dim then 1 else 0, by have := h d d.is_lt; split <;> omega⟩

theorem offset_unitStep (h : ∀ dim < t.ndim, 2 ≤ t.size dim) (dim : Fin t.ndim) :
    t.offset (unitStep h dim) = t.stride dim := by
  simp [offset, unitStep]

theorem not_injective_offset (h : ∀ dim < t.ndim, 2 ≤ t.size dim) {d e : Fin t.ndim} (hde : d ≠ e)
    (hs : t.stride d = t.stride e) : ¬Function.Injective t.offset := by
  intro injective
  have same : unitStep h d = unitStep h e := by
    apply injective
    rw [offset_unitStep, offset_unitStep, hs]
  simpa [unitStep, hde] using congrFun same d

end Overlap

end FusionGuards.Tensor
