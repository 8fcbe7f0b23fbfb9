namespace FusionGuards.Word

/-- The 64-bit integer of the given value, if there is one. -/
def ofInt? (i : Int) : Option Int64 :=
  if Int64.minValue.toInt ≤ i ∧ i ≤ Int64.maxValue.toInt then some (.ofInt i) else none

def mul? (a b : Int64) : Option Int64 := ofInt? (a.toInt * b.toInt)

def satMul (a b : Int64) : Int64 := .ofIntClamp (a.toInt * b.toInt)

/-- The product of a list taken from the left, if every partial product fits. -/
def product? (xs : List Int64) : Option Int64 := xs.foldlM mul? 1

def text (a : Int64) : String := toString a.toInt

theorem ofInt?_eq_some_iff {i : Int} {a : Int64} : ofInt? i = some a ↔ a.toInt = i := by
  unfold ofInt?
  constructor
  · intro h
    split at h
    case isTrue hi =>
      cases h
      exact Int64.toInt_ofInt_of_le hi.1 (Int.lt_of_le_of_lt hi.2 (by decide))
    case isFalse => cases h
  · rintro rfl
    rw [if_pos ⟨a.le_toInt, Int.le_of_lt_add_one a.toInt_lt⟩, Int64.ofInt_toInt]

@[simp] theorem ofInt?_toInt (a : Int64) : ofInt? a.toInt = some a := ofInt?_eq_some_iff.2 rfl

theorem mul?_eq_some_iff {a b c : Int64} : mul? a b = some c ↔ c.toInt = a.toInt * b.toInt :=
  ofInt?_eq_some_iff

end FusionGuards.Word
