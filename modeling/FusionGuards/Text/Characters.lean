namespace FusionGuards.Text

def inRanges (rs : List (Nat × Nat)) (c : Char) : Bool :=
  rs.any fun r => decide (r.1 ≤ c.toNat) && decide (c.toNat ≤ r.2)

theorem inRanges_eq_true_iff {rs : List (Nat × Nat)} {c : Char} :
    inRanges rs c = true ↔ ∃ r ∈ rs, r.1 ≤ c.toNat ∧ c.toNat ≤ r.2 := by
  simp [inRanges]

/-- Whether the ranges stand in ascending order, none of them empty, with code points between them. -/
def ascending : List (Nat × Nat) → Bool
  | [] => true
  | [r] => decide (r.1 ≤ r.2)
  | r :: s :: rest => decide (r.1 ≤ r.2) && decide (r.2 + 1 < s.1) && ascending (s :: rest)

def count (rs : List (Nat × Nat)) : Nat := rs.foldr (fun r n => r.2 + 1 - r.1 + n) 0

/-- The characters of Unicode's `White_Space` property. -/
def blankRanges : List (Nat × Nat) :=
  [(0x9, 0xD), (0x20, 0x20), (0x85, 0x85), (0xA0, 0xA0), (0x1680, 0x1680), (0x2000, 0x200A),
   (0x2028, 0x2029), (0x202F, 0x202F), (0x205F, 0x205F), (0x3000, 0x3000)]

example : ascending blankRanges ∧ count blankRanges = 25 := by decide

def isBlank (c : Char) : Bool := inRanges blankRanges c

def trim (s : List Char) : List Char :=
  ((s.dropWhile isBlank).reverse.dropWhile isBlank).reverse

def hexDigit (n : Nat) : Char := if n < 10 then .ofNat (n + 48) else .ofNat (n + 87)

def hexDigit? (c : Char) : Option Nat :=
  if c.isDigit then some (c.toNat - '0'.toNat)
  else if 'a' ≤ c ∧ c ≤ 'f' then some (c.toNat - 'a'.toNat + 10)
  else if 'A' ≤ c ∧ c ≤ 'F' then some (c.toNat - 'A'.toNat + 10)
  else none

example : ∀ n < 16, hexDigit? (hexDigit n) = some n := by decide

def ofHex? (ds : List Char) : Option Nat := ds.foldlM (fun n c => (hexDigit? c).map (16 * n + ·)) 0

def codePoint? (ds : List Char) : Option Char := do
  let n ← ofHex? ds
  if n.isValidChar then some (.ofNat n) else none

def byteCount (s : List Char) : Nat := s.foldr (fun c n => c.utf8Size + n) 0

/-- A place inside a character divides nothing. -/
def dropBytes? : Nat → List Char → Option (List Char)
  | 0, s => some s
  | _ + 1, [] => none
  | n + 1, c :: s => if c.utf8Size ≤ n + 1 then dropBytes? (n + 1 - c.utf8Size) s else none

def takeBytes? : Nat → List Char → Option (List Char)
  | 0, _ => some []
  | _ + 1, [] => none
  | n + 1, c :: s =>
    if c.utf8Size ≤ n + 1 then (takeBytes? (n + 1 - c.utf8Size) s).map (c :: ·) else none

end FusionGuards.Text
