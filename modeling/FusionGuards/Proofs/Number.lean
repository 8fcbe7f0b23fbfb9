import FusionGuards.Double
import Mathlib.Algebra.Order.Field.Rat
import Mathlib.Order.Monotone.Basic

/-! Payloads are in the order of the magnitudes they stand for, so different doubles stand for different numbers but
for the two zeros. -/

namespace FusionGuards.Double

inductive Number
  | finite (q : ℚ)
  | infinite (negative : Bool)
  deriving DecidableEq

/-- How many times the smallest positive double a magnitude is, from its biased exponent and the bits below it. -/
def multiple : (exponent fraction : Nat) → Nat
  | 0, m => m
  | e + 1, m => (m + 2 ^ 52) * 2 ^ e

def magnitudeOf (payload : Nat) : ℚ := multiple (payload / 2 ^ 52) (payload % 2 ^ 52) / 2 ^ 1074

def negative (d : Double) : Bool := decide (2 ^ 63 ≤ d.bits.toNat)

def number? (d : Double) : Option Number :=
  if d.isNaN then none
  else if d.payload = infinityBits then some (.infinite d.negative)
  else some (.finite (if d.negative then -magnitudeOf d.payload else magnitudeOf d.payload))

theorem multiple_lt_succ (e m : Nat) : multiple e m < multiple e (m + 1) := by
  cases e with
  | zero => exact Nat.lt_succ_self m
  | succ e => exact Nat.mul_lt_mul_of_pos_right (by omega) (Nat.two_pow_pos e)

theorem multiple_lt_next {e m : Nat} (last : m + 1 = 2 ^ 52) : multiple e m < multiple (e + 1) 0 := by
  cases e with
  | zero =>
    simp only [multiple]
    omega
  | succ e =>
    calc (m + 2 ^ 52) * 2 ^ e < (2 ^ 52 * 2) * 2 ^ e :=
          Nat.mul_lt_mul_of_pos_right (by omega) (Nat.two_pow_pos e)
      _ = (0 + 2 ^ 52) * 2 ^ (e + 1) := by rw [Nat.zero_add, Nat.mul_assoc, Nat.pow_succ' (n := e)]

theorem multiple_strictMono : StrictMono fun payload => multiple (payload / 2 ^ 52) (payload % 2 ^ 52) := by
  apply strictMono_nat_of_lt_succ
  intro p
  change multiple (p / 2 ^ 52) (p % 2 ^ 52) < multiple ((p + 1) / 2 ^ 52) ((p + 1) % 2 ^ 52)
  -- The fraction goes up by one, or it was the last of its exponent and the next exponent begins.
  obtain ⟨same, next⟩ | ⟨up, first, last⟩ :
      (p + 1) / 2 ^ 52 = p / 2 ^ 52 ∧ (p + 1) % 2 ^ 52 = p % 2 ^ 52 + 1 ∨
        (p + 1) / 2 ^ 52 = p / 2 ^ 52 + 1 ∧ (p + 1) % 2 ^ 52 = 0 ∧ p % 2 ^ 52 + 1 = 2 ^ 52 := by omega
  · rw [same, next]
    exact multiple_lt_succ _ _
  · rw [up, first]
    exact multiple_lt_next last

theorem magnitudeOf_strictMono : StrictMono magnitudeOf := by
  intro p q less
  apply div_lt_div_of_pos_right _ (pow_pos two_pos 1074)
  exact Nat.cast_lt.2 (multiple_strictMono less)

@[simp] theorem magnitudeOf_zero : magnitudeOf 0 = 0 := zero_div _

theorem magnitudeOf_nonneg (p : Nat) : 0 ≤ magnitudeOf p := by
  rw [← magnitudeOf_zero]
  exact magnitudeOf_strictMono.monotone (Nat.zero_le p)

theorem eq_zero_of_magnitudeOf_eq_neg {p q : Nat} (h : magnitudeOf p = -magnitudeOf q) : p = 0 ∧ q = 0 := by
  have left : magnitudeOf p = 0 :=
    le_antisymm (h.trans_le (neg_nonpos.2 (magnitudeOf_nonneg q))) (magnitudeOf_nonneg p)
  have right : magnitudeOf q = 0 := neg_eq_zero.1 (h.symm.trans left)
  rw [← magnitudeOf_zero] at left right
  exact ⟨magnitudeOf_strictMono.injective left, magnitudeOf_strictMono.injective right⟩

theorem eq_iff_payload {a b : Double} : a = b ↔ a.payload = b.payload ∧ a.negative = b.negative := by
  obtain ⟨a⟩ := a
  obtain ⟨b⟩ := b
  have ha := a.toNat_lt
  have hb := b.toNat_lt
  simp only [mk.injEq, ← UInt64.toNat_inj, payload, negative, decide_eq_decide, Nat.pow_eq]
  omega

theorem number?_eq_none_iff {d : Double} : d.number? = none ↔ d.isNaN = true := by
  unfold number?
  split
  · simp [*]
  · split <;> simp [*]

theorem number?_eq_infinite_iff {d : Double} {negative : Bool} :
    d.number? = some (.infinite negative) ↔ d.payload = infinityBits ∧ d.negative = negative := by
  unfold number? isNaN
  grind

theorem number?_eq_finite_iff {d : Double} {q : ℚ} :
    d.number? = some (.finite q) ↔ d.payload < infinityBits ∧
      (if d.negative then -magnitudeOf d.payload else magnitudeOf d.payload) = q := by
  unfold number? isNaN
  grind

theorem number?_of_isZero {d : Double} (zero : d.isZero = true) : d.number? = some (.finite 0) := by
  rw [isZero, beq_iff_eq] at zero
  rw [number?_eq_finite_iff, zero]
  simp [infinityBits]

theorem eq_or_isZero_of_number? {a b : Double} {x : Number} (ha : a.number? = some x) (hb : b.number? = some x) :
    a = b ∨ a.isZero = true ∧ b.isZero = true := by
  simp only [isZero, beq_iff_eq, eq_iff_payload]
  cases x with
  | infinite negative =>
    obtain ⟨pa, rfl⟩ := number?_eq_infinite_iff.1 ha
    obtain ⟨pb, sign⟩ := number?_eq_infinite_iff.1 hb
    exact .inl ⟨pa.trans pb.symm, sign.symm⟩
  | finite q =>
    obtain ⟨_, rfl⟩ := number?_eq_finite_iff.1 ha
    obtain ⟨_, same⟩ := number?_eq_finite_iff.1 hb
    by_cases sign : a.negative = b.negative
    · have magnitude : magnitudeOf a.payload = magnitudeOf b.payload := by
        rw [sign] at same
        cases hs : b.negative <;> simpa [hs] using same.symm
      exact .inl ⟨magnitudeOf_strictMono.injective magnitude, sign⟩
    · have magnitude : -magnitudeOf b.payload = magnitudeOf a.payload := by
        rw [Bool.eq_not_of_ne sign] at same
        cases hs : b.negative <;> simpa [hs, neg_eq_iff_eq_neg] using same
      exact .inr (eq_zero_of_magnitudeOf_eq_neg magnitude.symm)

theorem equal_iff {a b : Double} : a.equal b = true ↔ ∃ x, a.number? = some x ∧ b.number? = some x := by
  simp only [equal, Bool.and_eq_true, Bool.or_eq_true, Bool.not_eq_true', beq_iff_eq]
  constructor
  · rintro ⟨⟨number, _⟩, rfl | ⟨za, zb⟩⟩
    · have stands : a.number? ≠ none := by
        rw [Ne, number?_eq_none_iff, number]
        exact Bool.false_ne_true
      obtain ⟨x, hx⟩ := Option.ne_none_iff_exists'.1 stands
      exact ⟨x, hx, hx⟩
    · exact ⟨.finite 0, number?_of_isZero za, number?_of_isZero zb⟩
  · rintro ⟨x, ha, hb⟩
    have number {d : Double} (h : d.number? = some x) : d.isNaN = false := by
      rw [← Bool.not_eq_true, ← number?_eq_none_iff, h]
      exact nofun
    exact ⟨⟨number ha, number hb⟩, eq_or_isZero_of_number? ha hb⟩

example : number? ⟨0xbff8000000000000⟩ = some (.finite (-3 / 2)) := by decide +kernel
example : number? ⟨0x0000000000000003⟩ = some (.finite (3 / 2 ^ 1074)) := by decide +kernel

end FusionGuards.Double
