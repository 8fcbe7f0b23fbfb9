namespace FusionGuards

structure Double where
  bits : UInt64
  deriving DecidableEq, Repr

namespace Double

def infinityBits : Nat := 0x7ff0000000000000

def payload (d : Double) : Nat := d.bits.toNat % Nat.pow 2 63

def isNaN (d : Double) : Bool := decide (infinityBits < d.payload)

def isZero (d : Double) : Bool := d.payload == 0

def equal (a b : Double) : Bool :=
  !a.isNaN && !b.isNaN && (a == b || (a.isZero && b.isZero))

def ofPayload (negative : Bool) (payload : Nat) : Double :=
  ⟨.ofNat (if negative then Nat.pow 2 63 + payload else payload)⟩

def divRound (num den : Nat) : Nat :=
  let q := num / den
  let r := num % den
  if 2 * r < den ∨ (2 * r = den ∧ q % 2 = 0) then q else q + 1

def scale (num den : Nat) (q : Int) : Nat × Nat :=
  match q with
  | .ofNat k => (num, den * Nat.pow 2 k)
  | .negSucc k => (num * Nat.pow 2 (k + 1), den)

/-- The power of two that is the unit of the last place of `num / den`. It is at least the unit of the smallest
double, and makes the significand less than `2 ^ 53` before rounding. -/
def unit (num den : Nat) : Int :=
  let guess : Int := (num.log2 : Int) - den.log2 - 53
  let s := scale num den guess
  let exact := if s.1 < Nat.pow 2 53 * s.2 then guess else guess + 1
  max exact (-1074)

def magnitude (num den : Nat) : Nat :=
  if num = 0 then 0
  else
    let q := unit num den
    let s := scale num den q
    (q + 1074).toNat * Nat.pow 2 52 + divRound s.1 s.2

def ratio (payload : Nat) : Nat × Nat :=
  let e := payload / Nat.pow 2 52
  let m := payload % Nat.pow 2 52
  if e = 0 then (m, Nat.pow 2 1074)
  else
    let m := m + Nat.pow 2 52
    if 1075 ≤ e then (m * Nat.pow 2 (e - 1075), 1) else (m, Nat.pow 2 (1075 - e))

def mulRound (a b : Nat) : Nat :=
  magnitude ((ratio a).1 * (ratio b).1) ((ratio a).2 * (ratio b).2)

def quotRound (a b : Nat) : Nat :=
  magnitude ((ratio a).1 * (ratio b).2) ((ratio a).2 * (ratio b).1)

example : magnitude 1 1 = 0x3ff0000000000000 := by decide
example : magnitude 1 10 = 0x3fb999999999999a := by decide +kernel
example : magnitude (2 ^ 53 + 1) 1 = 0x4340000000000000 := by decide +kernel
example : magnitude 1 (2 ^ 1075) = 0 ∧ magnitude 3 (2 ^ 1075) = 2 := by decide +kernel

end Double

end FusionGuards
