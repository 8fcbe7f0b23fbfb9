import FusionGuards.Word
import Mathlib.Algebra.Order.BigOperators.GroupWithZero.List
import Mathlib.Algebra.Order.Ring.Int

namespace FusionGuards.Word

def Fits (i : Int) : Prop := -2 ^ 63 ≤ i ∧ i < 2 ^ 63

instance (i : Int) : Decidable (Fits i) := inferInstanceAs (Decidable (_ ∧ _))

def total (xs : List Int64) : Int := (xs.map Int64.toInt).prod

def PrefixesFit (xs : List Int64) : Prop := ∀ n, Fits (total (xs.take n))

theorem fits_toInt (a : Int64) : Fits a.toInt := ⟨a.le_toInt, a.toInt_lt⟩

theorem Fits.exists_toInt_eq {i : Int} (h : Fits i) : ∃ a : Int64, a.toInt = i :=
  ⟨.ofInt i, Int64.toInt_ofInt_of_le h.1 h.2⟩

@[simp] theorem total_nil : total [] = 1 := rfl

@[simp] theorem total_cons (x : Int64) (xs : List Int64) : total (x :: xs) = x.toInt * total xs := by
  simp [total]

theorem foldlM_mul?_eq_some_iff {xs : List Int64} {a b : Int64} :
    xs.foldlM mul? a = some b ↔
      b.toInt = a.toInt * total xs ∧ ∀ n, Fits (a.toInt * total (xs.take n)) := by
  induction xs generalizing a with
  | nil => simp [fits_toInt, ← Int64.toInt_inj, eq_comm]
  | cons x xs ih =>
    have step (n : Nat) : total ((x :: xs).take (n + 1)) = x.toInt * total (xs.take n) := by simp
    simp only [List.foldlM_cons, Option.bind_eq_bind, Option.bind_eq_some_iff, mul?_eq_some_iff, ih]
    rw [← Nat.and_forall_add_one (p := fun n => Fits (a.toInt * total ((x :: xs).take n)))]
    simp only [step, total_cons, ← Int.mul_assoc]
    constructor
    · rintro ⟨c, hc, hb, fits⟩
      rw [← hc]
      exact ⟨hb, by simpa using fits_toInt a, fits⟩
    · rintro ⟨hb, _, fits⟩
      -- The factor just taken is the first of the partial products that are to fit.
      obtain ⟨c, hc⟩ := (fits 0).exists_toInt_eq
      rw [List.take_zero, total_nil, Int.mul_one] at hc
      rw [← hc] at hb fits
      exact ⟨c, hc, hb, fits⟩

theorem product?_eq_some_iff {xs : List Int64} {a : Int64} :
    product? xs = some a ↔ a.toInt = total xs ∧ PrefixesFit xs := by
  simp [product?, foldlM_mul?_eq_some_iff, PrefixesFit]

theorem PrefixesFit.fits {xs : List Int64} (h : PrefixesFit xs) : Fits (total xs) := by
  simpa using h xs.length

theorem PrefixesFit.exists_product? {xs : List Int64} (h : PrefixesFit xs) :
    ∃ a, product? xs = some a ∧ a.toInt = total xs := by
  obtain ⟨a, ha⟩ := h.fits.exists_toInt_eq
  exact ⟨a, product?_eq_some_iff.2 ⟨ha, h⟩, ha⟩

theorem product?_eq_none_iff {xs : List Int64} : product? xs = none ↔ ¬PrefixesFit xs := by
  constructor
  · intro none h
    obtain ⟨a, ha, _⟩ := h.exists_product?
    rw [none] at ha
    cases ha
  · intro h
    rw [Option.eq_none_iff_forall_not_mem]
    intro a ha
    exact h (product?_eq_some_iff.1 ha).2

theorem mul?_eq_none_iff {a b : Int64} : mul? a b = none ↔ ¬Fits (a.toInt * b.toInt) := by
  constructor
  · intro unfit fits
    obtain ⟨c, hc⟩ := fits.exists_toInt_eq
    rw [mul?_eq_some_iff.2 hc] at unfit
    cases unfit
  · intro wide
    rw [Option.eq_none_iff_forall_not_mem]
    intro c hc
    exact wide (mul?_eq_some_iff.1 hc ▸ fits_toInt c)

theorem mod_eq_zero_iff {a b : Int64} : a % b = 0 ↔ b.toInt ∣ a.toInt := by
  rw [← Int64.toInt_inj, Int64.toInt_mod, Int.dvd_iff_tmod_eq_zero]
  rfl

theorem toInt_div_of_pos {a b : Int64} (h : 1 ≤ b.toInt) : (a / b).toInt = a.toInt.tdiv b.toInt := by
  apply Int64.toInt_div_of_ne_right
  rintro rfl
  exact absurd h (by decide)

theorem not_le_zero_iff {a : Int64} : ¬a ≤ 0 ↔ 1 ≤ a := by
  rw [Int64.le_iff_toInt_le, Int64.le_iff_toInt_le]
  exact not_le

theorem toInt_max_one (s : Int64) : (max s 1).toInt = max s.toInt 1 := by
  change (if s ≤ 1 then 1 else s : Int64).toInt = max s.toInt 1
  by_cases h : s ≤ 1
  · rw [if_pos h]
    exact (max_eq_right (Int64.le_iff_toInt_le.1 h)).symm
  · rw [if_neg h]
    rw [Int64.le_iff_toInt_le, not_le] at h
    exact (max_eq_left h.le).symm

theorem toInt_ofIntClamp_of_nonneg {i : Int} (h : 0 ≤ i) :
    (Int64.ofIntClamp i).toInt = min (2 ^ 63 - 1) i := by
  have lower : Int64.minValue.toInt ≤ i := le_trans (by decide) h
  by_cases upper : i ≤ Int64.maxValue.toInt
  · rw [Int64.toInt_ofIntClamp lower upper]
    exact (min_eq_right upper).symm
  · rw [Int64.ofIntClamp, dif_pos lower, dif_neg upper]
    exact (min_eq_left (not_le.1 upper).le).symm

theorem toInt_satMul_of_nonneg {a b : Int64} (h : 0 ≤ a.toInt * b.toInt) :
    (satMul a b).toInt = min (2 ^ 63 - 1) (a.toInt * b.toInt) :=
  toInt_ofIntClamp_of_nonneg h

section Positive

variable {xs : List Int64} (pos : ∀ x ∈ xs, 1 ≤ x)

include pos

theorem one_le_total : 1 ≤ total xs := by
  apply List.one_le_prod
  intro i hi
  obtain ⟨x, hx, rfl⟩ := List.mem_map.1 hi
  exact Int64.le_iff_toInt_le.1 (pos x hx)

theorem prefixesFit_iff_of_pos : PrefixesFit xs ↔ Fits (total xs) := by
  refine ⟨PrefixesFit.fits, fun h n => ?_⟩
  have start : 1 ≤ total (xs.take n) := one_le_total fun x hx => pos x (List.mem_of_mem_take hx)
  have rest : 1 ≤ total (xs.drop n) := one_le_total fun x hx => pos x (List.mem_of_mem_drop hx)
  have split : total xs = total (xs.take n) * total (xs.drop n) := by
    rw [total, total, total, ← List.prod_append, ← List.map_append, List.take_append_drop]
  obtain ⟨_, upper⟩ := h
  refine ⟨by omega, lt_of_le_of_lt ?_ upper⟩
  rw [split]
  exact le_mul_of_one_le_right (by omega) rest

end Positive

end FusionGuards.Word
