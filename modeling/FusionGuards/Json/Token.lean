import FusionGuards.Json
import FusionGuards.Text.Characters

namespace FusionGuards.Json

inductive Token
  | openBrace
  | closeBrace
  | openBracket
  | closeBracket
  | colon
  | comma
  | null
  | bool (b : Bool)
  | number (n : Number)
  | string (s : Str)

namespace Token

def isBlank (c : Char) : Bool := c == ' ' || c == '\t' || c == '\n' || c == '\r'

def digit (c : Char) : Nat := c.toNat - '0'.toNat

def digits (s : List Char) : List Nat := (s.takeWhile Char.isDigit).map digit

def afterDigits (s : List Char) : List Char := s.dropWhile Char.isDigit

def ofDigits (ds : List Nat) : Nat := ds.foldl (fun n d => 10 * n + d) 0

def fraction : List Char → Option (List Nat × List Char)
  | '.' :: s => if digits s = [] then none else some (digits s, afterDigits s)
  | s => some ([], s)

def magnitude (negative : Bool) (s : List Char) : Option (Option Int × List Char) :=
  if digits s = [] then none
  else
    let n : Int := ofDigits (digits s)
    some (some (if negative then -n else n), afterDigits s)

def exponent : List Char → Option (Option Int × List Char)
  | c :: s =>
    if c = 'e' ∨ c = 'E' then
      match s with
      | '+' :: s => magnitude false s
      | '-' :: s => magnitude true s
      | s => magnitude false s
    else some (none, c :: s)
  | [] => some (none, [])

def numeral (negative : Bool) (first : Char) (s : List Char) : Option (Number × List Char) :=
  if first = '0' ∧ digits s ≠ [] then none
  else do
    let (frac, s₁) ← fraction (afterDigits s)
    let (exp, s₂) ← exponent s₁
    some (⟨negative, ofDigits (digit first :: digits s), frac, exp⟩, s₂)

def escape? : Char → Option Nat
  | '"' => some 0x22
  | '\\' => some 0x5C
  | '/' => some 0x2F
  | 'b' => some 0x8
  | 'f' => some 0xC
  | 'n' => some 0xA
  | 'r' => some 0xD
  | 't' => some 0x9
  | _ => none

/-- The units of a string up to its closing quote, and what follows the quote. A character is one unit, an
escape of four hexadecimal digits is one unit even where it is a surrogate. -/
def units : List Char → Option (List Nat × List Char)
  | [] => none
  | '"' :: s => some ([], s)
  | '\\' :: 'u' :: a :: b :: c :: d :: s => do
    let u ← Text.ofHex? [a, b, c, d]
    let (us, rest) ← units s
    some (u :: us, rest)
  | '\\' :: e :: s => do
    let u ← escape? e
    let (us, rest) ← units s
    some (u :: us, rest)
  | c :: s =>
    if c.toNat < 0x20 then none
    else do
      let (us, rest) ← units s
      some (c.toNat :: us, rest)

def isHigh (u : Nat) : Bool := decide (0xD800 ≤ u) && decide (u < 0xDC00)

def isLow (u : Nat) : Bool := decide (0xDC00 ≤ u) && decide (u < 0xE000)

def scalar? (u : Nat) : Option Char :=
  if isHigh u || isLow u then none else some (.ofNat u)

/-- Joins surrogate pairs; half of a pair stands for no character. -/
def characters? : List Nat → Option (List Char)
  | [] => some []
  | [u] => (scalar? u).map fun c => [c]
  | u :: v :: us =>
    if isHigh u then
      if isLow v then
        (characters? us).map fun cs => .ofNat (0x10000 + (u - 0xD800) * 0x400 + (v - 0xDC00)) :: cs
      else none
    else do
      let c ← scalar? u
      let cs ← characters? (v :: us)
      some (c :: cs)

def next (c : Char) (s : List Char) : Option (Token × List Char) :=
  match c, s with
  | '\x7b', s => some (.openBrace, s)
  | '\x7d', s => some (.closeBrace, s)
  | '[', s => some (.openBracket, s)
  | ']', s => some (.closeBracket, s)
  | ':', s => some (.colon, s)
  | ',', s => some (.comma, s)
  | 'n', 'u' :: 'l' :: 'l' :: s => some (.null, s)
  | 't', 'r' :: 'u' :: 'e' :: s => some (.bool true, s)
  | 'f', 'a' :: 'l' :: 's' :: 'e' :: s => some (.bool false, s)
  | '"', s => (units s).map fun r => (.string ((characters? r.1).map String.ofList), r.2)
  | '-', d :: s => if d.isDigit then (numeral true d s).map fun r => (.number r.1, r.2) else none
  | c, s => if c.isDigit then (numeral false c s).map fun r => (.number r.1, r.2) else none

theorem length_afterDigits_le (s : List Char) : (afterDigits s).length ≤ s.length :=
  (List.dropWhile_suffix _).length_le

theorem length_fraction_le {s r : List Char} {ds : List Nat} (h : fraction s = some (ds, r)) :
    r.length ≤ s.length := by
  unfold fraction at h
  split at h
  case h_1 s =>
    split at h
    · cases h
    · cases h
      exact Nat.le_succ_of_le (length_afterDigits_le s)
  case h_2 => cases h; exact Nat.le_refl _

theorem length_magnitude_le {negative : Bool} {s r : List Char} {e : Option Int}
    (h : magnitude negative s = some (e, r)) : r.length ≤ s.length := by
  unfold magnitude at h
  split at h
  · cases h
  · cases h
    exact length_afterDigits_le s

theorem length_exponent_le {s r : List Char} {e : Option Int} (h : exponent s = some (e, r)) :
    r.length ≤ s.length := by
  unfold exponent at h
  split at h
  case h_1 c s =>
    split at h
    · split at h
      all_goals
        have := length_magnitude_le h
        simp only [List.length_cons]
        omega
    · cases h; exact Nat.le_refl _
  case h_2 => cases h; exact Nat.le_refl _

theorem length_numeral_le {negative : Bool} {c : Char} {s r : List Char} {n : Number}
    (h : numeral negative c s = some (n, r)) : r.length ≤ s.length := by
  unfold numeral at h
  split at h
  · cases h
  · simp only [Option.bind_eq_bind, Option.bind_eq_some_iff] at h
    obtain ⟨⟨frac, s₁⟩, h₁, ⟨exp, s₂⟩, h₂, h₃⟩ := h
    cases h₃
    exact Nat.le_trans (length_exponent_le h₂)
      (Nat.le_trans (length_fraction_le h₁) (length_afterDigits_le s))

theorem length_units_le {s r : List Char} {us : List Nat} (h : units s = some (us, r)) :
    r.length ≤ s.length := by
  induction s using units.induct generalizing us r with
  | case1 => simp [units] at h
  | case2 s => simp [units] at h; simp [← h.2]
  | case3 a b c d s ih =>
    simp only [units, Option.bind_eq_bind, Option.bind_eq_some_iff] at h
    obtain ⟨u, _, ⟨us', r'⟩, h', h⟩ := h
    cases h
    exact Nat.le_trans (ih h') (by simp only [List.length_cons]; omega)
  | case4 e s hne ih =>
    rw [units] at h
    · simp only [Option.bind_eq_bind, Option.bind_eq_some_iff] at h
      obtain ⟨u, _, ⟨us', r'⟩, h', h⟩ := h
      cases h
      exact Nat.le_trans (ih h') (by simp only [List.length_cons]; omega)
    · exact hne
  | case5 c s _ _ _ hc => simp_all [units]
  | case6 c s h₁ h₂ h₃ hc ih =>
    rw [units] at h
    · rw [if_neg hc] at h
      simp only [Option.bind_eq_bind, Option.bind_eq_some_iff] at h
      obtain ⟨⟨us', r'⟩, h', h⟩ := h
      cases h
      exact Nat.le_succ_of_le (ih h')
    all_goals assumption

theorem length_next_le {c : Char} {s r : List Char} {t : Token} (h : next c s = some (t, r)) :
    r.length ≤ s.length := by
  unfold next at h
  split at h
  case h_10 =>
    obtain ⟨⟨us, r'⟩, h', h⟩ := Option.map_eq_some_iff.1 h
    cases h
    exact length_units_le h'
  case h_11 =>
    split at h
    · obtain ⟨⟨n, r'⟩, h', h⟩ := Option.map_eq_some_iff.1 h
      cases h
      exact Nat.le_succ_of_le (length_numeral_le h')
    · cases h
  case h_12 =>
    split at h
    · obtain ⟨⟨n, r'⟩, h', h⟩ := Option.map_eq_some_iff.1 h
      cases h
      exact length_numeral_le h'
    · cases h
  all_goals
    cases h
    grind

def scan : List Char → Option (List Token)
  | [] => some []
  | c :: s =>
    if isBlank c then scan s
    else
      match h : next c s with
      | none => none
      | some (t, r) =>
        have : r.length < s.length + 1 := Nat.lt_succ_of_le (length_next_le h)
        (scan r).map (t :: ·)
  termination_by s => s.length

end Token

end FusionGuards.Json
