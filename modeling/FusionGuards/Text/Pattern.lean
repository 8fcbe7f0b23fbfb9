import FusionGuards.Text.Alphanumeric
import FusionGuards.Text.Characters

/-! Repetitions counted in braces are no part of patterns, nor are escapes for whole classes of characters or for the
ends of words. -/

namespace FusionGuards.Text.Pattern

def escape? : List Char → Option (Option Char × List Char)
  | 'x' :: a :: b :: s => (codePoint? [a, b]).map (some ·, s)
  | 'u' :: a :: b :: c :: d :: s => (codePoint? [a, b, c, d]).map (some ·, s)
  | 'U' :: a :: b :: c :: d :: e :: f :: g :: h :: s => (codePoint? [a, b, c, d, e, f, g, h]).map (some ·, s)
  | 'A' :: s => some (none, s)
  | 'z' :: s => some (none, s)
  | 'a' :: s => some (some '\x07', s)
  | 't' :: s => some (some '\t', s)
  | 'n' :: s => some (some '\n', s)
  | 'v' :: s => some (some '\x0b', s)
  | 'f' :: s => some (some '\x0c', s)
  | 'r' :: s => some (some '\r', s)
  | c :: s => if c.toNat < 0x80 ∧ ¬c.isAlphanum ∧ c ≠ '<' ∧ c ≠ '>' then some (some c, s) else none
  | [] => none

def member? : List Char → Option (Char × List Char)
  | [] => none
  | '\\' :: s =>
    match escape? s with
    | some (some c, s) => some (c, s)
    | _ => none
  | c :: s => some (c, s)

/-- A class after its opening bracket, less what has a meaning only there: a circumflex, and then a closing bracket or
dashes that stand for themselves. -/
def entered (s : List Char) : List Char :=
  let s := match s with
    | '^' :: s => s
    | s => s
  match s with
  | ']' :: s => s
  | s => s.dropWhile (· == '-')

/-- What follows a class that has been entered, and `depth` more within it. -/
def afterClass? : (fuel depth : Nat) → List Char → Option (List Char)
  | 0, _, _ => none
  | _, _, [] => none
  | _ + 1, 0, ']' :: s => some s
  | fuel + 1, depth + 1, ']' :: s => afterClass? fuel depth s
  | fuel + 1, depth, '[' :: s => afterClass? fuel (depth + 1) (entered s)
  | fuel + 1, depth, '&' :: '&' :: s => afterClass? fuel depth s
  | fuel + 1, depth, '-' :: '-' :: s => afterClass? fuel depth s
  | fuel + 1, depth, '~' :: '~' :: s => afterClass? fuel depth s
  | fuel + 1, depth, s => do
    let (first, s) ← member? s
    match s with
    | '-' :: ']' :: _ => afterClass? fuel depth s
    | '-' :: '-' :: _ => afterClass? fuel depth s
    | '-' :: s =>
      let (last, s) ← member? s
      if first ≤ last then afterClass? fuel depth s else none
    | s => afterClass? fuel depth s

def isName (s : List Char) : Bool :=
  s.all (fun c => isAlphanumeric c || c ∈ ['_', '.', '[', ']']) &&
    s.head?.any (fun c => (isAlphanumeric c && !c.isDigit) || c == '_')

def afterName? (s : List Char) : Option (List Char) :=
  match s.dropWhile (· != '>') with
  | _ :: rest => if isName (s.takeWhile (· != '>')) then some rest else none
  | [] => none

/-- What follows the opening parenthesis of a group, its name or flags left out, and whether the group is still open;
flags may stand in parentheses of their own. -/
def afterOpening? : List Char → Option (Bool × List Char)
  | '?' :: 'P' :: '<' :: s => (afterName? s).map (true, ·)
  | '?' :: '<' :: s => (afterName? s).map (true, ·)
  | '?' :: s =>
    let isFlag (c : Char) := c ∈ ['i', 'm', 's', 'U', 'u', 'R', 'x', '-']
    let flags := s.takeWhile isFlag
    if ¬flags.Nodup ∨ flags.getLast? = some '-' then none
    else
      match s.dropWhile isFlag with
      | ':' :: s => some (true, s)
      | ')' :: s => if flags = [] then none else some (false, s)
      | _ => none
  | s => some (true, s)

/-- Whether a text closes `depth` groups and is a pattern otherwise. `operand` says whether something precedes it that
can be repeated. -/
def closes : (fuel depth : Nat) → (operand : Bool) → List Char → Bool
  | 0, _, _, _ => false
  | _ + 1, depth, _, [] => depth == 0
  | fuel + 1, depth, operand, c :: s =>
    match c with
    | '(' =>
      match afterOpening? s with
      | some (true, s) => closes fuel (depth + 1) false s
      | some (false, s) => closes fuel depth false s
      | none => false
    | ')' => depth != 0 && closes fuel (depth - 1) true s
    | '|' => closes fuel depth false s
    | '[' => (afterClass? (s.length + 1) 0 (entered s)).any (closes fuel depth true)
    | '\\' => (escape? s).any fun r => closes fuel depth true r.2
    | '\x7b' => false
    | _ =>
      if c = '*' ∨ c = '+' ∨ c = '?' then
        operand && closes fuel depth true (if s.head? = some '?' then s.drop 1 else s)
      else closes fuel depth true s

end Pattern

def isPattern (s : List Char) : Bool := Pattern.closes (s.length + 1) 0 false s

example : isPattern "a(b|[^]x-z])*?".toList ∧ ¬isPattern "*".toList ∧ ¬isPattern "(a".toList ∧
    ¬isPattern "[z-a]".toList ∧ ¬isPattern "a\\".toList := by decide +kernel

end FusionGuards.Text
