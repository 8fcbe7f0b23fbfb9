import FusionGuards.Double

/-! A table remembers how it came to be, as that decides what may still be added to it. Tables between braces are
closed. A table under a header takes no dotted keys from outside, and a header may not stand for a table that is there
already unless other headers only passed through it. -/

namespace FusionGuards.Toml

inductive TableKind
  | header
  | passed
  | dotted
  | braced
  deriving DecidableEq, Repr

inductive Value
  | bool (b : Bool)
  | integer (i : Int64)
  | float (d : Double)
  | string (s : String)
  | moment (text : String)
  | array (elements : List Value)
  | table (kind : TableKind) (entries : List (String × Value))
  /-- Tables under one repeated header, the last one first. -/
  | tables (elements : List (List (String × Value)))

abbrev Entries := List (String × Value)

structure Key where
  path : List String
  last : String
  deriving DecidableEq, Repr

namespace Entries

def replace (key : String) (v : Value) : Entries → Entries
  | [] => []
  | (k, old) :: rest => if k = key then (k, v) :: rest else (k, old) :: replace key v rest

/-- Changes the table at the end of a path, given the kind of the one it starts from. Missing tables on the way are
made, and of tables under one repeated header the last one counts. -/
def descend (dotted : Bool) (change : TableKind → Entries → Option Entries) :
    (path : List String) → TableKind → Entries → Option Entries
  | [], kind, entries => change kind entries
  | key :: path, _, entries =>
    match entries.lookup key with
    | none => do
      let kind := if dotted then .dotted else .passed
      let inner ← descend dotted change path kind []
      return entries ++ [(key, .table kind inner)]
    | some (.table kind inner) =>
      if kind = .braced ∨ (dotted ∧ kind = .header) then none
      else do
        let inner ← descend dotted change path kind inner
        return replace key (.table kind inner) entries
    | some (.tables (inner :: older)) => do
      let inner ← descend dotted change path .header inner
      return replace key (.tables (inner :: older)) entries
    | some _ => none

def assign (key : Key) (v : Value) : TableKind → Entries → Option Entries :=
  descend true (fun kind entries =>
    if (kind == .dotted) == key.path.isEmpty then none
    else if (entries.lookup key.last).isSome then none
    else some (entries ++ [(key.last, v)])) key.path

def openTable (key : Key) : Entries → Option Entries :=
  descend false (fun _ entries =>
    match entries.lookup key.last with
    | none => some (entries ++ [(key.last, .table .header [])])
    | some (.table .passed inner) => some (replace key.last (.table .header inner) entries)
    | some _ => none) key.path .header

def openElement (key : Key) : Entries → Option Entries :=
  descend false (fun _ entries =>
    match entries.lookup key.last with
    | none => some (entries ++ [(key.last, .tables [[]])])
    | some (.tables elements) => some (replace key.last (.tables ([] :: elements)) entries)
    | some _ => none) key.path .header

end Entries

end FusionGuards.Toml
