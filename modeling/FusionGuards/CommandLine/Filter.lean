import FusionGuards.CommandLine.Arguments
import FusionGuards.Event
import FusionGuards.Fuser.Environment
import FusionGuards.Text.Characters
import FusionGuards.Text.Pattern

/-! A filter is a list of directives between commas. Of the directives that concern an event the most specific one
decides, and of several equally specific ones the last; an event that no directive concerns is not shown. -/

namespace FusionGuards.CommandLine

def logVariable : String := "SPECGUARD_LOG"

abbrev Threshold := Option Level

namespace Threshold

def names : List (String × Threshold) :=
  [("off", none), ("error", some .error), ("warn", some .warn), ("info", some .info),
   ("debug", some .debug), ("trace", some .trace)]

def number? (s : List Char) : Option Nat :=
  let digits := match s with
    | '+' :: ds => ds
    | ds => ds
  if digits = [] ∨ ¬digits.all Char.isDigit then none
  else some (digits.foldl (fun n c => 10 * n + (c.toNat - '0'.toNat)) 0)

def ofName? (s : List Char) : Option Threshold :=
  match number? s with
  | some n => names[n]?.map (·.2)
  | none => names.lookup (.ofList (s.map Char.toLower))

def shows (t : Threshold) (level : Level) : Bool :=
  match t with
  | none => false
  | some least => decide (least.severity ≤ level.severity)

end Threshold

inductive FilterFault
  | malformed
  | insideCharacter
  deriving DecidableEq, Repr

def orMalformed (x : Option α) : Except FilterFault α := x.elim (.error .malformed) .ok

def orInside (x : Option α) : Except FilterFault α := x.elim (.error .insideCharacter) .ok

inductive Scope
  | all
  | withField (name : String)
  /-- Only what happens within a named span. There are no spans. -/
  | span
  deriving DecidableEq, Repr

namespace Scope

def includes (s : Scope) (e : Event) : Bool :=
  match s with
  | all => true
  | withField name => name == "message" || e.fields.any (·.1 == name)
  | span => false

/-- Whether the second scope is as specific as the first. Between two fields their names decide. -/
def yields : Scope → Scope → Bool
  | withField a, withField b => decide (a ≤ b)
  | withField _, _ => false
  | _, _ => true

end Scope

structure Directive where
  source : String := ""
  scope : Scope := .all
  threshold : Threshold
  deriving DecidableEq, Repr

def isMagnitude (s : List Char) : Bool :=
  let mantissa := s.takeWhile (· != 'e')
  let exponent := match (s.dropWhile (· != 'e')).drop 1 with
    | '+' :: ds => ds
    | '-' :: ds => ds
    | ds => ds
  (String.ofList s) ∈ ["inf", "infinity", "nan"] ||
    mantissa.any Char.isDigit && mantissa.all (fun c => c.isDigit || c == '.') && decide (mantissa.count '.' ≤ 1) &&
      exponent.all Char.isDigit && (exponent != [] || mantissa == s)

def isValue (s : List Char) : Bool :=
  Text.isPattern s || match s with
    | '+' :: s => isMagnitude (s.map Char.toLower)
    | _ => false

namespace Directive

def concerns (d : Directive) (e : Event) : Bool :=
  d.source.toList.isPrefixOf e.source.toList && d.scope.includes e

/-- Whether the second directive is as specific as the first. A longer name goes before any scope. -/
def yields (d d' : Directive) : Bool :=
  decide (d.source.length < d'.source.length) ||
    (d.source.length == d'.source.length && d.scope.yields d'.scope)

def begins (c : Char) : Bool := Text.isAlphanumeric c || c ∈ ['[', '-', ':', '_']

def level (s : List Char) : Except FilterFault Threshold :=
  if s = [] then .ok (some .trace) else orMalformed (Threshold.ofName? s)

/-- The scope of a field in braces, after the span's name if there is one. A field that is given with its value is one
of a span. -/
def fieldScope (span field : List Char) : Except FilterFault Scope := do
  if field = [] then throw .malformed
  let name := field.takeWhile (· != '=')
  match field.dropWhile (· != '=') with
  | [] => return if span = [] then .withField (.ofList name) else .span
  | _ :: value => if isValue (value.takeWhile (· != '=')) then return .span else throw .malformed

def brackets (taken : List Char → List Char → Except FilterFault (List Char)) (s : List Char) :
    Except FilterFault (Scope × List Char) := do
  let isName (c : Char) := c != ']' && c != '\x7b'
  let isField (c : Char) := c != '\x7d'
  match s.dropWhile isName with
  | ']' :: rest =>
    let _ ← taken s (s.takeWhile isName)
    return (.span, rest)
  | '\x7b' :: fields =>
    let span ← taken s (s.takeWhile isName)
    match fields.dropWhile isField with
    | '\x7d' :: rest =>
      let scope ← fieldScope span (← taken fields (fields.takeWhile isField))
      match rest with
      | ']' :: rest => return (scope, rest)
      | _ => throw .malformed
    | _ => throw .malformed
  | _ => throw .malformed

/-- A directive by itself. A word without an equals sign is a level if it can be, with all blanks around it. The parts
of other words are taken by their places, which blanks before the word shift. -/
def ofText (s : List Char) : Except FilterFault Directive := do
  let word := Text.trim s
  if ¬word.head?.any begins then throw .malformed
  let following (rest : List Char) :=
    orInside (Text.dropBytes? (Text.byteCount word - Text.byteCount rest) s)
  let taken (rest part : List Char) := do
    orInside (Text.takeBytes? (Text.byteCount part) (← following rest))
  let isName (c : Char) := c != '=' && c != '['
  let name := word.takeWhile isName
  match word.dropWhile isName with
  | '=' :: rest =>
    let source ← taken word name
    return { source := .ofList source, threshold := ← level (← following rest) }
  | '[' :: rest =>
    let source ← taken word name
    match ← brackets taken rest with
    | (scope, []) => return { source := .ofList source, scope, threshold := some .trace }
    | (scope, '=' :: rest) =>
      return { source := .ofList source, scope, threshold := ← level (← following rest) }
    | _ => throw .malformed
  | _ =>
    match Threshold.ofName? s with
    | some threshold => return { threshold }
    | none => return { source := .ofList s, threshold := some .trace }

end Directive

def defaultFilter : List Directive := [{ threshold := some .warn }]

def directives (s : String) : Except FilterFault (List Directive) :=
  ((splitCommas s.toList).filter (· ≠ [])).mapM Directive.ofText

/-- The filter in the environment. A malformed one counts as none, and one with a part that begins or ends inside a
character is no filter at all. -/
def logFilter? (env : Environment) : Option (List Directive) :=
  match env logVariable with
  | none => some defaultFilter
  | some text =>
    match directives text with
    | .ok filter => some filter
    | .error .malformed => some defaultFilter
    | .error .insideCharacter => none

def deciding? (filter : List Directive) (e : Event) : Option Directive :=
  (filter.filter (·.concerns e)).foldl (fun best d =>
    match best with
    | none => some d
    | some b => if b.yields d then some d else some b) none

def isShown (filter : List Directive) (e : Event) : Bool :=
  (deciding? filter e).any (·.threshold.shows e.level)

def logLines (filter : List Directive) (events : List Event) : List String :=
  (events.filter (isShown filter)).map Event.line

end FusionGuards.CommandLine
