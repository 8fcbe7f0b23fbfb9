import FusionGuards.Text.Characters
import FusionGuards.Toml.Table
import FusionGuards.Word

namespace FusionGuards.Toml

def digits? (isDigit : Char → Bool) : List Char → Option (List Char)
  | [] => none
  | [c] => if isDigit c then some [c] else none
  | c :: '_' :: s => if isDigit c then (digits? isDigit s).map (c :: ·) else none
  | c :: s => if isDigit c then (digits? isDigit s).map (c :: ·) else none

def ofDigits (base : Nat) (ds : List Char) : Nat :=
  ds.foldl (fun n c => base * n + (Text.hexDigit? c).getD 0) 0

def decimal? (s : List Char) : Option (List Char) := do
  match ← digits? Char.isDigit s with
  | '0' :: _ :: _ => none
  | ds => some ds

def unsigned : List Char → Bool × List Char
  | '-' :: s => (true, s)
  | '+' :: s => (false, s)
  | s => (false, s)

def integer? (w : List Char) : Option Int :=
  match w with
  | '0' :: 'x' :: s => (digits? (fun c => (Text.hexDigit? c).isSome) s).map fun ds => ofDigits 16 ds
  | '0' :: 'o' :: s => (digits? (fun c => '0' ≤ c && c ≤ '7') s).map fun ds => ofDigits 8 ds
  | '0' :: 'b' :: s => (digits? (fun c => c == '0' || c == '1') s).map fun ds => ofDigits 2 ds
  | w =>
    let (negative, s) := unsigned w
    (decimal? s).map fun ds => if negative then -(ofDigits 10 ds : Int) else ofDigits 10 ds

/-- The payload nearest to `n * 10 ^ e`. Far beyond the range of doubles on either side it is not computed. -/
def payload (n : Nat) (e : Int) : Nat :=
  let size : Int := e + (Nat.toDigits 10 n).length
  if n = 0 ∨ size < -400 then 0
  else if 400 < size then Double.infinityBits
  else min Double.infinityBits (Double.magnitude (n * Nat.pow 10 e.toNat) (Nat.pow 10 (-e).toNat))

def isExponentMark (c : Char) : Bool := c == 'e' || c == 'E'

def exponent? : List Char → Option Int
  | [] => some 0
  | c :: s =>
    if isExponentMark c then
      let (negative, s) := unsigned s
      (digits? Char.isDigit s).map fun ds => if negative then -(ofDigits 10 ds : Int) else ofDigits 10 ds
    else none

def parts? (s : List Char) : Option (List Char × Int) := do
  let whole ← decimal? (s.takeWhile fun c => c != '.' && !isExponentMark c)
  match s.dropWhile fun c => c != '.' && !isExponentMark c with
  | [] => none
  | '.' :: s =>
    let fraction ← digits? Char.isDigit (s.takeWhile (!isExponentMark ·))
    let e ← exponent? (s.dropWhile (!isExponentMark ·))
    return (whole ++ fraction, e - fraction.length)
  | s => return (whole, ← exponent? s)

/-- A positive number must not be too large for a double. -/
def float? (w : List Char) : Option Double :=
  let (negative, s) := unsigned w
  if s = "inf".toList then some (.ofPayload negative Double.infinityBits)
  else if s = "nan".toList then some (.ofPayload negative (Double.infinityBits + Nat.pow 2 51))
  else do
    let (ds, e) ← parts? s
    let p := payload (ofDigits 10 ds) e
    if !negative && p == Double.infinityBits then none
    return .ofPayload negative p

def fixed? (count : Nat) (s : List Char) : Option (Nat × List Char) :=
  let ds := s.take count
  if ds.length = count ∧ ds.all Char.isDigit then some (ofDigits 10 ds, s.drop count) else none

def after? (c : Char) : List Char → Option (List Char)
  | [] => none
  | d :: s => if d = c then some s else none

def daysIn (year month : Nat) : Nat :=
  if month = 2 then
    if year % 4 = 0 ∧ (year % 100 ≠ 0 ∨ year % 400 = 0) then 29 else 28
  else if month ∈ [4, 6, 9, 11] then 30
  else 31

def afterDate? (s : List Char) : Option (List Char) := do
  let (year, s) ← fixed? 4 s
  let (month, s) ← fixed? 2 (← after? '-' s)
  let (day, s) ← fixed? 2 (← after? '-' s)
  if 1 ≤ month ∧ month ≤ 12 ∧ 1 ≤ day ∧ day ≤ daysIn year month then some s else none

def afterFraction? : List Char → Option (List Char)
  | '.' :: s => if (s.takeWhile Char.isDigit) = [] then none else some (s.dropWhile Char.isDigit)
  | s => some s

def afterTime? (s : List Char) : Option (List Char) := do
  let (hour, s) ← fixed? 2 s
  let (minute, s) ← fixed? 2 (← after? ':' s)
  let (second, s) ← fixed? 2 (← after? ':' s)
  if hour ≤ 23 ∧ minute ≤ 59 ∧ second ≤ 60 then afterFraction? s else none

def isOffset (s : List Char) : Bool :=
  match s with
  | [] | ['Z'] | ['z'] => true
  | c :: s =>
    (c == '+' || c == '-') &&
      match (do
        let (hour, s) ← fixed? 2 s
        let (minute, s) ← fixed? 2 (← after? ':' s)
        return (hour, minute, s)) with
      | some (hour, minute, []) => decide (hour ≤ 23) && decide (minute ≤ 59)
      | _ => false

def isOffsetTime (w : List Char) : Bool := (afterTime? w).any isOffset

def isDate (w : List Char) : Bool := afterDate? w == some []

def isMoment (w : List Char) : Bool :=
  match afterDate? w with
  | some [] => true
  | some (c :: s) => (c == 'T' || c == 't') && isOffsetTime s
  | none => afterTime? w == some []

def isWord (c : Char) : Bool :=
  c.isAlphanum || c == '_' || c == '+' || c == '-' || c == '.' || c == ':'

def word? (w : List Char) : Option Value :=
  if w = "true".toList then some (.bool true)
  else if w = "false".toList then some (.bool false)
  else if isMoment w then some (.moment (.ofList w))
  else
    match float? w with
    | some d => some (.float d)
    | none => do
      let i ← integer? w
      (Word.ofInt? i).map .integer

def scalar? (s : List Char) : Option (Value × List Char) :=
  let w := s.takeWhile isWord
  let rest := s.dropWhile isWord
  let time := (rest.drop 1).takeWhile isWord
  if isDate w && rest.head? == some ' ' && isOffsetTime time then
    some (.moment (.ofList (w ++ ' ' :: time)), (rest.drop 1).dropWhile isWord)
  else (word? w).map (·, rest)

end FusionGuards.Toml
