namespace FusionGuards

/-- The text of a string, or `none` if one of its escapes is half of a surrogate pair. -/
abbrev Json.Str := Option String

structure Json.Number where
  negative : Bool
  whole : Nat
  fraction : List Nat
  exponent : Option Int
  deriving DecidableEq, Repr

inductive Json
  | null
  | bool (b : Bool)
  | number (n : Json.Number)
  | string (s : Json.Str)
  | array (elements : List Json)
  | object (members : List (Json.Str × Json))

namespace Json

def Number.ofInt (i : Int) : Number := ⟨decide (i < 0), i.natAbs, [], none⟩

def Number.toInt? : Number → Option Int
  | ⟨false, n, [], none⟩ => some n
  | ⟨true, n + 1, [], none⟩ => some (.negSucc n)
  | _ => none

def int (i : Int) : Json := .number (.ofInt i)

def nat (n : Nat) : Json := .number (.ofInt n)

def text (s : String) : Json := .string (some s)

def record (members : List (String × Json)) : Json :=
  .object (members.map fun m => (some m.1, m.2))

def ofOption (f : α → Json) : Option α → Json
  | none => .null
  | some a => f a

def ofList (f : α → Json) (xs : List α) : Json := .array (xs.map f)

@[simp] theorem Number.toInt?_ofInt (i : Int) : (Number.ofInt i).toInt? = some i := by
  cases i with
  | ofNat n =>
    have h : ¬(Int.ofNat n < 0) := Int.not_lt.2 (Int.natCast_nonneg n)
    simp only [Number.ofInt, h, decide_false, Number.toInt?]
    rfl
  | negSucc n => simp [Number.ofInt, Number.toInt?, Int.negSucc_lt_zero]

end Json

end FusionGuards
