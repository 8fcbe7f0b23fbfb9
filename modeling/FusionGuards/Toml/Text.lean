import FusionGuards.Text.Characters
import FusionGuards.Toml.Table

/-! Lines end in a line feed here; a carriage return before one is dropped in advance, and anywhere else it is a
control character like others. -/

namespace FusionGuards.Toml

def isBlank (c : Char) : Bool := c == ' ' || c == '\t'

def isControl (c : Char) : Bool := (decide (c.toNat < 0x20) && c != '\t') || c.toNat == 0x7F

def skip (s : List Char) : List Char := s.dropWhile isBlank

def unmarked : List Char → List Char
  | '\ufeff' :: s => s
  | s => s

def unreturned : List Char → List Char
  | '\r' :: '\n' :: s => '\n' :: unreturned s
  | c :: s => c :: unreturned s
  | [] => []

def layout (inComment : Bool) : List Char → List Char
  | [] => []
  | c :: s =>
    if c = '\n' then layout false s
    else if inComment then (if isControl c then c :: s else layout true s)
    else if isBlank c then layout false s
    else if c = '#' then layout true s
    else c :: s

def lineEnd? (s : List Char) : Option (List Char) :=
  let left := match skip s with
    | '#' :: comment => comment.dropWhile (!isControl ·)
    | s => s
  match left with
  | [] => some []
  | '\n' :: s => some s
  | _ => none

def escape? : List Char → Option (Char × List Char)
  | 'u' :: a :: b :: c :: d :: s => (Text.codePoint? [a, b, c, d]).map (·, s)
  | 'U' :: a :: b :: c :: d :: e :: f :: g :: h :: s => (Text.codePoint? [a, b, c, d, e, f, g, h]).map (·, s)
  | 'b' :: s => some ('\x08', s)
  | 't' :: s => some ('\t', s)
  | 'n' :: s => some ('\n', s)
  | 'f' :: s => some ('\x0c', s)
  | 'r' :: s => some ('\r', s)
  | '"' :: s => some ('"', s)
  | '\\' :: s => some ('\\', s)
  | _ => none

theorem length_escape?_lt {s r : List Char} {c : Char} (h : escape? s = some (c, r)) :
    r.length < s.length := by
  unfold escape? at h
  split at h
  case h_1 =>
    obtain ⟨_, _, h⟩ := Option.map_eq_some_iff.1 h
    cases h
    simp only [List.length_cons]
    omega
  case h_2 =>
    obtain ⟨_, _, h⟩ := Option.map_eq_some_iff.1 h
    cases h
    simp only [List.length_cons]
    omega
  all_goals
    cases h
    try simp

def apostrophe : Char := '\x27'

def isText (multiline : Bool) (c : Char) : Bool := !isControl c || (multiline && c == '\n')

/-- What ends a string that the mark opened, and what follows; a multiline string may have up to two more marks
before its last three. -/
def closing? (multiline : Bool) (mark : Char) (s : List Char) : Option (List Char × List Char) :=
  let marks := (s.takeWhile (· == mark)).length
  if multiline then
    if marks < 3 then none
    else
      let extra := min (marks - 3) 2
      some (s.take extra, s.drop (extra + 3))
  else if marks = 0 then none
  else some ([], s.drop 1)

def literal (multiline : Bool) : List Char → Option (List Char × List Char)
  | [] => none
  | c :: s =>
    match closing? multiline apostrophe (c :: s) with
    | some r => some r
    | none =>
      if isText multiline c then do
        let (cs, rest) ← literal multiline s
        return (c :: cs, rest)
      else none

/-- The rest of a string with escapes, and what follows it. In a multiline string a backslash at the end of a line
takes the line end and all blanks after it away. -/
def basic (multiline : Bool) : List Char → Option (List Char × List Char)
  | [] => none
  | c :: s =>
    match closing? multiline '"' (c :: s) with
    | some r => some r
    | none =>
      if c = '\\' then
        match h : escape? s with
        | some (x, r) =>
          have : r.length < s.length + 1 := Nat.lt_succ_of_lt (length_escape?_lt h)
          (basic multiline r).map fun t => (x :: t.1, t.2)
        | none =>
          if multiline ∧ (skip s).head? = some '\n' then
            have : (s.dropWhile fun c => isBlank c || c == '\n').length < s.length + 1 :=
              Nat.lt_succ_of_le (List.dropWhile_suffix _).length_le
            basic multiline (s.dropWhile fun c => isBlank c || c == '\n')
          else none
      else if isText multiline c then (basic multiline s).map fun t => (c :: t.1, t.2)
      else none
  termination_by s => s.length

def quoted? : List Char → Option (List Char × List Char)
  | [] => none
  | c :: s => if c = '"' then basic false s else if c = apostrophe then literal false s else none

def multiline? (read : Bool → List Char → Option (List Char × List Char)) :
    List Char → Option (List Char × List Char)
  | '\n' :: s => read true s
  | s => read true s

def string? : List Char → Option (List Char × List Char)
  | '"' :: '"' :: '"' :: s => multiline? basic s
  | '\x27' :: '\x27' :: '\x27' :: s => multiline? literal s
  | s => quoted? s

def isBare (c : Char) : Bool := c.isAlphanum || c == '_' || c == '-'

def keyPart? (s : List Char) : Option (String × List Char) :=
  let bare := s.takeWhile isBare
  if bare = [] then (quoted? s).map fun r => (.ofList r.1, r.2)
  else some (.ofList bare, s.dropWhile isBare)

def keyParts? : (count : Nat) → List Char → Option (List String × List Char)
  | 0, _ => none
  | count + 1, s => do
    let (part, s) ← keyPart? (skip s)
    match skip s with
    | '.' :: s =>
      let (parts, s) ← keyParts? count s
      return (part :: parts, s)
    | s => return ([part], s)

/-- Keys have at most this many parts, and arrays and braced tables nest this deep. -/
def limit : Nat := 79

def key? (s : List Char) : Option (Key × List Char) := do
  let (parts, s) ← keyParts? limit s
  let last ← parts.getLast?
  return (⟨parts.dropLast, last⟩, s)

end FusionGuards.Toml
