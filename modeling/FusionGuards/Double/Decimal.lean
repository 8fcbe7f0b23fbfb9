import FusionGuards.Double
import FusionGuards.Json

/-! The digits that fit in 64 bits make up the significand: further digits of the whole part raise the exponent,
further digits of the fraction do not count. The significand is rounded to a double and then multiplied or divided
once by a power of ten, itself rounded. -/

namespace FusionGuards.Double

structure Decimal where
  significand : Nat
  exponent : Int

namespace Decimal

def significandBound : Nat := UInt64.size

def ofWhole (n : Nat) : Decimal :=
  if _h : n < significandBound then ⟨n, 0⟩
  else
    let d := ofWhole (n / 10)
    ⟨d.significand, d.exponent + 1⟩
  decreasing_by
    have : 0 < n := Nat.lt_of_lt_of_le (by decide : 0 < significandBound) (Nat.le_of_not_lt _h)
    exact Nat.div_lt_self this (by decide)

def addFraction (d : Decimal) : List Nat → Decimal
  | [] => d
  | x :: xs =>
    if d.significand * 10 + x < significandBound then
      addFraction ⟨d.significand * 10 + x, d.exponent - 1⟩ xs
    else d

def exponentLimit : Int := Int32.maxValue.toInt

def largestPower : Nat := 308

def power (k : Nat) : Nat := magnitude (Nat.pow 10 k) 1

def divideDown : (fuel : Nat) → (f k : Nat) → Nat
  | 0, f, _ => f
  | fuel + 1, f, k =>
    if k ≤ largestPower then quotRound f (power k)
    else if f = 0 then 0
    else divideDown fuel (quotRound f (power largestPower)) (k - largestPower)

/-- The payload of a decimal, or `none` if it is too large for a double. A significand below `2 ^ 64` vanishes after
three divisions by the largest power. -/
def payload? (d : Decimal) : Option Nat :=
  let f := magnitude d.significand 1
  match d.exponent with
  | .ofNat k =>
    if k ≤ largestPower then
      let p := mulRound f (power k)
      if p < infinityBits then some p else none
    else if f = 0 then some 0
    else none
  | .negSucc k => some (divideDown 4 f (k + 1))

end Decimal

def ofNumber? (n : Json.Number) : Option Double :=
  let d := (Decimal.ofWhole n.whole).addFraction n.fraction
  let e := n.exponent.getD 0
  if Decimal.exponentLimit < e.natAbs then
    if d.significand ≠ 0 ∧ 0 < e then none else some (ofPayload n.negative 0)
  else
    let sum := max (-Decimal.exponentLimit - 1) (min Decimal.exponentLimit (d.exponent + e))
    (Decimal.payload? ⟨d.significand, sum⟩).map (ofPayload n.negative)

end FusionGuards.Double
