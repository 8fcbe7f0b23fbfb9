import FusionGuards.Toml.Scalar
import FusionGuards.Toml.Text

namespace FusionGuards.Toml

mutual

def value? (depth : Nat) : (fuel : Nat) → List Char → Option (Value × List Char)
  | 0, _ => none
  | fuel + 1, s =>
    match string? s, s, depth with
    | some r, _, _ => some (.string (.ofList r.1), r.2)
    | none, '[' :: s, depth + 1 => (elements? depth fuel (layout false s)).map fun r => (.array r.1, r.2)
    | none, '\x7b' :: s, depth + 1 =>
      match skip s with
      | '\x7d' :: s => some (.table .braced [], s)
      | s => (members? depth fuel [] s).map fun r => (.table .braced r.1, r.2)
    | none, s, _ => scalar? s

def elements? (depth : Nat) : (fuel : Nat) → List Char → Option (List Value × List Char)
  | 0, _ => none
  | _ + 1, ']' :: s => some ([], s)
  | fuel + 1, s => do
    let (v, s) ← value? depth fuel s
    match layout false s with
    | ',' :: s =>
      let (vs, s) ← elements? depth fuel (layout false s)
      return (v :: vs, s)
    | ']' :: s => return ([v], s)
    | _ => none

def members? (depth : Nat) : (fuel : Nat) → Entries → List Char → Option (Entries × List Char)
  | 0, _, _ => none
  | fuel + 1, entries, s => do
    let (key, s) ← key? s
    let (v, s) ← value? depth fuel (skip (← after? '=' s))
    let entries ← entries.assign key v .braced
    match skip s with
    | ',' :: s => members? depth fuel entries s
    | '\x7d' :: s => return (entries, s)
    | _ => none

end

/-- A value and what follows it. Each of its characters takes at most two calls. -/
def value (s : List Char) : Option (Value × List Char) := value? limit (2 * s.length + 2) s

/-- The whole table, read on from a line on. Assignments go to the table at `path`. -/
def statements? : (fuel : Nat) → (path : List String) → Entries → List Char → Option Entries
  | 0, _, _, _ => none
  | fuel + 1, path, entries, s =>
    match skip s with
    | [] => some entries
    | '\n' :: s => statements? fuel path entries s
    | '#' :: s => do statements? fuel path entries (← lineEnd? ('#' :: s))
    | '[' :: '[' :: s => do
      let (key, s) ← key? s
      let s ← lineEnd? (← after? ']' (← after? ']' s))
      statements? fuel (key.path ++ [key.last]) (← entries.openElement key) s
    | '[' :: s => do
      let (key, s) ← key? s
      let s ← lineEnd? (← after? ']' s)
      statements? fuel (key.path ++ [key.last]) (← entries.openTable key) s
    | s => do
      let (key, s) ← key? s
      let (v, s) ← value (skip (← after? '=' s))
      let s ← lineEnd? s
      statements? fuel path (← entries.descend false (Entries.assign key v) path .header) s

def read (text : String) : Option Entries :=
  let s := unreturned (unmarked text.toList)
  statements? (s.length + 1) [] [] s

end FusionGuards.Toml
