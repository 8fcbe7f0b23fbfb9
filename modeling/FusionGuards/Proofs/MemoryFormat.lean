import FusionGuards.Proofs.Collapse
import Mathlib.Algebra.Order.BigOperators.GroupWithZero.Finset
import Mathlib.Data.Fin.Tuple.Sort
import Mathlib.Order.Fin.Basic
import Mathlib.Order.Interval.Finset.Fin

namespace FusionGuards

open Equiv (Perm)

section Monotone

variable {n : Nat} {f : Fin n → Int}

theorem monotone_of_le_next (next : ∀ p q : Fin n, q.val + 1 = p → f q ≤ f p) : Monotone f := by
  cases n with
  | zero => exact fun p => p.elim0
  | succ n => exact Fin.monotone_iff_le_succ.2 fun p => next p.succ p.castSucc rfl

theorem strictMono_of_lt_next (next : ∀ p q : Fin n, q.val + 1 = p → f q < f p) : StrictMono f := by
  cases n with
  | zero => exact fun p => p.elim0
  | succ n => exact Fin.strictMono_iff_lt_succ.2 fun p => next p.succ p.castSucc rfl

theorem perm_eq_of_monotone {p q : Perm (Fin n)} (hp : Monotone (f ∘ p)) (hq : StrictMono (f ∘ q)) :
    p = q := by
  have same : f ∘ p = f ∘ q := Tuple.unique_monotone hp hq.monotone
  have injective : Function.Injective f := by
    rw [← q.injective_comp]
    exact hq.injective
  ext i
  rw [injective (congrFun same i)]

end Monotone

namespace Tensor

/-- Strides that from the fastest dimension of an order to the slowest are products of the sizes before. -/
def DenseAlong (t : Tensor) {rank : Nat} (order : Perm (Fin rank)) : Prop :=
  ∀ p, t.stride (order p) = ∏ q ∈ Finset.Iio p, (t.size (order q) : Int)

def axis (t : Tensor) (dim : Fin t.ndim) : Axis := t.axes.get (dim.cast (length_axes t).symm)

theorem axis?_eq_axis (t : Tensor) (dim : Fin t.ndim) : t.axis? dim = some (t.axis dim) := by
  simp [axis?, axis]

@[simp] theorem dim_axis (t : Tensor) (dim : Fin t.ndim) : (t.axis dim).dim = dim :=
  (axis?_eq_some_iff.1 (t.axis?_eq_axis dim)).1

theorem ofFn_axis (t : Tensor) : List.ofFn t.axis = t.axes := by
  apply List.ext_getElem
  · simp
  · simp [axis]

section DenseAlong

variable {t : Tensor} {rank : Nat} {order : Perm (Fin rank)} (dense : t.DenseAlong order)

include dense

theorem DenseAlong.first_stride {p : Fin rank} (hp : p.val = 0) : t.stride (order p) = 1 := by
  have before : Finset.Iio p = ∅ := by
    ext q
    simp [Fin.lt_def, hp]
  rw [dense p, before, Finset.prod_empty]

theorem DenseAlong.next_stride {p q : Fin rank} (hq : q.val + 1 = p) :
    t.stride (order p) = t.stride (order q) * t.size (order q) := by
  have before : Finset.Iio p = insert q (Finset.Iio q) := by
    ext r
    simp only [Finset.mem_Iio, Finset.mem_insert, Fin.lt_def, Fin.ext_iff]
    omega
  rw [dense p, dense q, before, Finset.prod_insert (by simp), Int.mul_comm]

variable (wide : ∀ dim < rank, 2 ≤ t.size dim)

include wide

theorem DenseAlong.one_le_stride (p : Fin rank) : 1 ≤ t.stride (order p) := by
  rw [dense p]
  apply Finset.one_le_prod
  intro q _
  have large := wide _ (order q).is_lt
  omega

theorem DenseAlong.strictMono : StrictMono fun p => t.stride (order p) := by
  apply strictMono_of_lt_next
  intro p q hq
  rw [dense.next_stride hq]
  have pos := dense.one_le_stride wide q
  have large := wide _ (order q).is_lt
  nlinarith

end DenseAlong

end Tensor

theorem Tensor.two_le_size {t : Tensor} (wide : ∀ s ∈ t.sizes, 2 ≤ s) {dim : Nat} (h : dim < t.ndim) :
    2 ≤ t.size dim := by
  obtain ⟨a, ha⟩ := exists_axis? h
  have large := wide a.size (List.mem_of_getElem? (axis?_eq_some_iff.1 ha).2.1)
  rw [Int64.le_iff_toInt_le, ← size_eq ha] at large
  exact Int.ofNat_le.1 large

namespace Signature

open Tensor

section Record

variable {t : Tensor} {order : Perm (Fin t.ndim)} (dense : t.DenseAlong order)
  (wide : ∀ dim < t.ndim, 2 ≤ t.size dim)

include dense wide

theorem strideOrder_of_dense : strideOrder t = List.ofFn (t.axis ∘ order) := by
  apply strideOrder_eq
  · rw [← t.ofFn_axis]
    exact order.ofFn_comp_perm t.axis
  · rw [List.pairwise_ofFn]
    intro p q hpq
    have rises := dense.strictMono wide hpq
    simp only [stride_eq (t.axis?_eq_axis _)] at rises
    rw [fasterOrEqual_iff]
    exact Or.inl rises

theorem getElem?_strideOrder_of_dense (p : Fin t.ndim) :
    (strideOrder t)[p.val]? = some (t.axis (order p)) := by
  simp [strideOrder_of_dense dense wide]

theorem referenceOf_of_dense {p : Fin t.ndim} :
    Walk.referenceOf ((strideOrder t).take (p + 1)) = some (t.axis (order p)) := by
  have pos := dense.one_le_stride wide p
  rw [List.take_add_one, getElem?_strideOrder_of_dense dense wide, Option.toList_some, Walk.referenceOf_concat, if_pos]
  have axis := t.axis?_eq_axis (order p)
  refine ⟨?_, Or.inr (size_ne_one axis (wide _ (order p).is_lt))⟩
  rw [ne_eq, ← stride_eq_zero_iff axis]
  omega

theorem collapsesWith_of_dense (p : Fin t.ndim) :
    (t.axis (order p)).CollapsesWith (Walk.referenceOf ((strideOrder t).take p)) := by
  right
  by_cases first : p.val = 0
  · left
    rw [← stride_eq_one_iff (t.axis?_eq_axis _)]
    exact dense.first_stride first
  · right
    obtain ⟨q, hq⟩ : ∃ q : Fin t.ndim, q.val + 1 = p := ⟨⟨p - 1, by omega⟩, by dsimp only; omega⟩
    rw [← hq, referenceOf_of_dense dense wide]
    refine ⟨_, rfl, ?_⟩
    rw [← stride_eq (t.axis?_eq_axis _), ← stride_eq (t.axis?_eq_axis _), ← size_eq (t.axis?_eq_axis _),
      dense.next_stride hq]

end Record

section Same

variable {t u : Tensor} {rank : Nat} {p q : Perm (Fin rank)} {g₁ g₂ : Bool}

theorem fullyContiguous_of_dense (ndim_eq : t.ndim = rank) (dense : t.DenseAlong p)
    (wide : ∀ dim < rank, 2 ≤ t.size dim) (gradMode : Bool) : (of t gradMode).FullyContiguous p := by
  subst ndim_eq
  refine ⟨rfl, fun i => ?_⟩
  have marked : (Walk.after ((strideOrder t).take i)).contiguousAt i (t.axis (p i)) = true :=
    (Walk.contiguousAt_after (by simp +contextual)).2 (collapsesWith_of_dense dense wide i)
  rw [slots_of, getElem?_strideOrder_of_dense dense wide, Option.map_some, marked, dim_axis]

theorem slots_eq_of_dense (ht : t.ndim = rank) (hu : u.ndim = rank) (denseT : t.DenseAlong p)
    (denseU : u.DenseAlong p) (wideT : ∀ dim < rank, 2 ≤ t.size dim)
    (wideU : ∀ dim < rank, 2 ≤ u.size dim) : (of t g₁).slots = (of u g₂).slots := by
  have slotsT := (fullyContiguous_of_dense ht denseT wideT g₁).slots_eq
  have slotsU := (fullyContiguous_of_dense hu denseU wideU g₂).slots_eq
  apply List.ext_getElem?
  intro i
  by_cases hi : i < rank
  · rw [slotsT ⟨i, hi⟩, slotsU ⟨i, hi⟩]
  · rw [List.getElem?_eq_none (by rw [length_slots_of]; omega),
      List.getElem?_eq_none (by rw [length_slots_of]; omega)]

theorem FullyContiguous.monotone_stride {s : Signature} {order : Perm (Fin t.ndim)} {gradMode : Bool}
    (h : s.FullyContiguous order) (fits : s.Fits t gradMode) (wide : ∀ dim < t.ndim, 2 ≤ t.size dim) :
    Monotone fun i => t.stride (order i) := by
  apply monotone_of_le_next
  intro i j hj
  have pos := stride_pos h fits wide j j.is_lt
  obtain ⟨first, second⟩ | span := FusionGuards.next_stride h fits wide hj pos
  · rw [first, second]
  · have large := wide _ (order j).is_lt
    rw [span]
    nlinarith

theorem sizeAlike_of_wide {A B : List Int64} (len : A.length = B.length) (hA : ∀ a ∈ A, 2 ≤ a)
    (hB : ∀ b ∈ B, 2 ≤ b) : List.Forall₂ SizeAlike A B := by
  have large {a : Int64} (h : 2 ≤ a) : a ≠ 1 ∧ a ≠ 0 := by
    constructor <;>
    · rintro rfl
      exact absurd h (by decide)
  rw [List.forall₂_iff_get]
  refine ⟨len, fun i hi hi' => ?_⟩
  have left := large (hA _ (List.get_mem A ⟨i, hi⟩))
  have right := large (hB _ (List.get_mem B ⟨i, hi'⟩))
  exact ⟨iff_of_false left.1 right.1, iff_of_false left.2 right.2⟩

theorem fits_of_dense_iff (ht : t.ndim = rank) (hu : u.ndim = rank) (denseT : t.DenseAlong p)
    (denseU : u.DenseAlong q) (wideT : ∀ s ∈ t.sizes, 2 ≤ s) (wideU : ∀ s ∈ u.sizes, 2 ≤ s)
    (elementType : t.elementType = u.elementType) (device : t.device = u.device)
    (requiresGrad : (t.requiresGrad && g₁) = (u.requiresGrad && g₂)) :
    (of t g₁).Fits u g₂ ↔ p = q := by
  have sizesT : ∀ dim < rank, 2 ≤ t.size dim := ht ▸ fun _ => two_le_size wideT
  have sizesU : ∀ dim < rank, 2 ≤ u.size dim := hu ▸ fun _ => two_le_size wideU
  constructor
  · intro fits
    have contiguous := fullyContiguous_of_dense ht denseT sizesT g₁
    subst hu
    exact perm_eq_of_monotone (f := fun dim => u.stride dim)
      (contiguous.monotone_stride fits sizesU) (denseU.strictMono sizesU)
  · rintro rfl
    apply fits_of_slots_eq elementType device requiresGrad
    · exact sizeAlike_of_wide (ht.trans hu.symm) wideT wideU
    · exact slots_eq_of_dense ht hu denseT denseU sizesT sizesU

end Same

end Signature

section Construction

variable {rank : Nat} (sizes : Fin rank → Int64) (order : Perm (Fin rank))

def denseStrides : List Int64 :=
  List.ofFn fun dim => .ofInt (∏ q ∈ Finset.Iio (order.symm dim), (sizes (order q)).toInt)

def Tensor.dense (elementType : ElementType) (device : Device) : Except LayoutError Tensor :=
  ofStrides (List.ofFn sizes) (denseStrides sizes order) elementType device

@[simp] theorem length_denseStrides : (denseStrides sizes order).length = rank := by
  simp [denseStrides]

variable {sizes order}

theorem prod_Iio_le_prod {f : Fin rank → Int} (pos : ∀ dim, 1 ≤ f dim) (p : Fin rank) :
    ∏ q ∈ Finset.Iio p, f (order q) ≤ ∏ dim, f dim := by
  rw [← Equiv.prod_comp order]
  apply Finset.prod_le_prod_of_subset_of_one_le (Finset.subset_univ _)
  · exact fun q _ => le_trans (by decide) (pos (order q))
  · exact fun q _ _ => pos (order q)

theorem denseAlong_of_strides_eq {t : Tensor} (hs : t.sizes = List.ofFn sizes)
    (ht : t.strides = denseStrides sizes order) (wide : ∀ dim, 2 ≤ sizes dim)
    (fits : ∏ dim, (sizes dim).toInt < 2 ^ 63) : t.DenseAlong order := by
  have positive (dim : Fin rank) : 1 ≤ (sizes dim).toInt :=
    le_trans (by decide) (Int64.le_iff_toInt_le.1 (wide dim))
  have size (q : Fin rank) : (t.size (order q) : Int) = (sizes (order q)).toInt := by
    have there : t.sizes.getD (order q) 0 = sizes (order q) := by simp [hs]
    rw [Tensor.size, there]
    exact Int.toNat_of_nonneg (le_trans (by decide) (positive _))
  intro p
  have lower : 1 ≤ ∏ q ∈ Finset.Iio p, (sizes (order q)).toInt := Finset.one_le_prod fun q _ => positive _
  have upper : ∏ q ∈ Finset.Iio p, (sizes (order q)).toInt < 2 ^ 63 :=
    lt_of_le_of_lt (prod_Iio_le_prod positive p) fits
  have there : t.strides.getD (order p) 0 = .ofInt (∏ q ∈ Finset.Iio p, (sizes (order q)).toInt) := by
    simp [ht, denseStrides]
  rw [Tensor.stride, there, Int64.toInt_ofInt_of_le (by omega) upper]
  simp only [size]

end Construction

theorem Signature.complies_of_dense {rank : Nat} (p q : Perm (Fin rank)) {A B : Fin rank → Int64}
    (hA : ∀ dim, 2 ≤ A dim) (hB : ∀ dim, 2 ≤ B dim) (fitsA : ∏ dim, (A dim).toInt < 2 ^ 63)
    (fitsB : ∏ dim, (B dim).toInt < 2 ^ 63) (elementType : ElementType) (device : Device)
    (requiresGrad gradMode : Bool) :
    ∃ t u, Tensor.dense A p elementType device = .ok t ∧ Tensor.dense B q elementType device = .ok u ∧
      ((of (t.withRequiresGrad requiresGrad) gradMode).complies
        (u.withRequiresGrad requiresGrad) gradMode).run.value = .ok (decide (p = q)) := by
  have wideA : ∀ a ∈ List.ofFn A, 2 ≤ a := by simpa [List.mem_ofFn'] using hA
  have wideB : ∀ b ∈ List.ofFn B, 2 ≤ b := by simpa [List.mem_ofFn'] using hB
  have nonneg {a : Int64} (h : 2 ≤ a) : 0 ≤ a := Int64.le_trans (by decide) h
  refine ⟨_, _, Tensor.ofStrides_eq_ok (by simp) (fun a ha => nonneg (wideA a ha)) elementType device,
    Tensor.ofStrides_eq_ok (by simp) (fun b hb => nonneg (wideB b hb)) elementType device, ?_⟩
  apply (wellFormed_of _ gradMode).value_complies_eq
  rw [decide_eq_true_iff]
  exact fits_of_dense_iff List.length_ofFn List.length_ofFn (denseAlong_of_strides_eq rfl rfl hA fitsA)
    (denseAlong_of_strides_eq rfl rfl hB fitsB) wideA wideB rfl rfl rfl

theorem Signature.complies_of_dense_reversed :
    let A : Fin 3 → Int64 := ![2, 3, 4]
    let B : Fin 3 → Int64 := ![5, 2, 922337203685477580]
    (∀ dim, 2 ≤ A dim) ∧ (∀ dim, 2 ≤ B dim) ∧
      ∃ t u, Tensor.dense A (Equiv.swap 0 2) .float .cpu = .ok t ∧ Tensor.dense B 1 .float .cpu = .ok u ∧
        ((of (t.withRequiresGrad false) true).complies (u.withRequiresGrad false) true).run.value = .ok false := by
  intro A B
  have hA : ∀ dim, 2 ≤ A dim := by decide
  have hB : ∀ dim, 2 ≤ B dim := by decide
  exact ⟨hA, hB, complies_of_dense (Equiv.swap 0 2) 1 hA hB (by decide) (by decide) .float .cpu false true⟩

end FusionGuards
