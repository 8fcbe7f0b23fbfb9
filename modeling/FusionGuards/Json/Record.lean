import FusionGuards.Json
import FusionGuards.Word

/-! A record is written as an object, or as the array of its fields in order. Of an object's members the unknown ones
do not count, and a known one may stand only once. A variant is written as its bare name, or as an object with its
name as the only member. -/

namespace FusionGuards.Json

def member? (ms : List (Str × Json)) (name : String) : Option Json := ms.lookup (some name)

def occurrences (ms : List (Str × Json)) (name : String) : Nat := ms.countP (·.1 == some name)

/-- The fields of a record in order, `none` for an absent one. The array form may leave out trailing fields but
not the first `least` ones. -/
def fields (names : List String) (least : Nat) : Json → Option (List (Option Json))
  | .object ms =>
    if ms.any (·.1.isNone) then none
    else if names.any fun name => decide (1 < occurrences ms name) then none
    else some (names.map (member? ms))
  | .array es =>
    if es.length < least ∨ names.length < es.length then none
    else some ((es.map some ++ List.replicate (names.length - es.length) none))
  | _ => none

def variant : Json → Option (String × Option Json)
  | .string (some name) => some (name, none)
  | .object [(some name, content)] => some (name, some content)
  | _ => none

def isBare : Option Json → Bool
  | none => true
  | some .null => true
  | some _ => false

def required (f : Json → Option α) : Option Json → Option α
  | none => none
  | some j => f j

def defaulted (d : α) (f : Json → Option α) : Option Json → Option α
  | none => some d
  | some j => f j

def nullable (f : Json → Option α) : Option Json → Option (Option α)
  | none => some none
  | some .null => some none
  | some j => (f j).map some

def orNull (f : Json → Option α) (j : Json) : Option (Option α) := nullable f (some j)

def toBool? : Json → Option Bool
  | .bool b => some b
  | _ => none

def toString? : Json → Option String
  | .string s => s
  | _ => none

def toInt? : Json → Option Int
  | .number n => n.toInt?
  | _ => none

def toWord? (j : Json) : Option Int64 := do Word.ofInt? (← j.toInt?)

def toNat? (bound : Nat) (j : Json) : Option Nat := do
  match ← j.toInt? with
  | .ofNat n => if n < bound then some n else none
  | .negSucc _ => none

def indexBound : Nat := UInt64.size

def toIndex? (j : Json) : Option Nat := toNat? indexBound j

def toList? (f : Json → Option α) : Json → Option (List α)
  | .array es => es.mapM f
  | _ => none

def ofWord (a : Int64) : Json := .int a.toInt

def ofWords (xs : List Int64) : Json := ofList ofWord xs

def toWords? (j : Json) : Option (List Int64) := toList? toWord? j

end FusionGuards.Json
