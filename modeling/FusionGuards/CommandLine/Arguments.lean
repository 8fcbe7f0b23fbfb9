import FusionGuards.Word

/-! An option's value follows it, after an equals sign or as the next argument. List options take any argument for
their value, also one with leading dashes, and add up when repeated; file options stand once and their value has no
leading dash. -/

namespace FusionGuards.CommandLine

inductive Command
  | version
  | status
  | inferView (sizes view : List Int64)
  | checkView (sizes view tensorRules viewRules : List Int64)
  | checkTensor (signature tensor : String)
  deriving DecidableEq, Repr

inductive OptionKind
  | integers
  | file
  deriving DecidableEq, Repr

def integer? (s : List Char) : Option Int64 := do
  let (negative, digits) := match s with
    | '-' :: ds => (true, ds)
    | '+' :: ds => (false, ds)
    | ds => (false, ds)
  if digits = [] ∨ ¬digits.all Char.isDigit then none
  let n : Int := digits.foldl (fun n c => 10 * n + (c.toNat - '0'.toNat)) 0
  Word.ofInt? (if negative then -n else n)

def splitCommas : List Char → List (List Char)
  | [] => [[]]
  | ',' :: s => [] :: splitCommas s
  | c :: s =>
    match splitCommas s with
    | [] => [[c]]
    | part :: parts => (c :: part) :: parts

def integers? (s : String) : Option (List Int64) := (splitCommas s.toList).mapM integer?

def option? (arg : String) : Option (String × Option String) :=
  match arg.toList with
  | '-' :: '-' :: s =>
    let name := String.ofList (s.takeWhile (· != '='))
    match s.dropWhile (· != '=') with
    | [] => some (name, none)
    | _ :: value => some (name, some (.ofList value))
  | _ => none

def isFileArgument (arg : String) : Bool := arg == "-" || arg.toList.head? != some '-'

def options? (kinds : List (String × OptionKind)) : List String → Option (List (String × String))
  | [] => some []
  | ["--"] => some []
  | [arg] => do
    match ← option? arg with
    | (name, some value) => if (kinds.lookup name).isSome then some [(name, value)] else none
    | (_, none) => none
  | arg :: next :: rest => do
    match ← option? arg with
    | (name, some value) =>
      if (kinds.lookup name).isSome then (options? kinds (next :: rest)).map ((name, value) :: ·)
      else none
    | (name, none) =>
      match kinds.lookup name with
      | none => none
      | some .integers => (options? kinds rest).map ((name, next) :: ·)
      | some .file =>
        if isFileArgument next then (options? kinds rest).map ((name, next) :: ·) else none

def valuesOf (given : List (String × String)) (name : String) : List String :=
  (given.filter (·.1 == name)).map (·.2)

def list? (given : List (String × String)) (name : String) : Option (List Int64) := do
  match valuesOf given name with
  | [] => none
  | values => (← values.mapM integers?).flatten

def file? (given : List (String × String)) (name : String) : Option String :=
  match valuesOf given name with
  | [file] => if file = "" then none else some file
  | _ => none

def Command.ofOptions? (command : String) (args : List String) : Option Command := do
  match command with
  | "status" =>
    let _ ← options? [] args
    some .status
  | "infer-view" =>
    let given ← options? [("sizes", .integers), ("view", .integers)] args
    some (.inferView (← list? given "sizes") (← list? given "view"))
  | "check-view" =>
    let given ← options? [("sizes", .integers), ("view", .integers), ("tensor-constraint", .integers),
      ("view-constraint", .integers)] args
    some (.checkView (← list? given "sizes") (← list? given "view") (← list? given "tensor-constraint")
      (← list? given "view-constraint"))
  | "check-tensor" =>
    let given ← options? [("signature", .file), ("tensor", .file)] args
    some (.checkTensor (← file? given "signature") (← file? given "tensor"))
  | _ => none

def Command.ofArgs? : List String → Option Command
  | [] => none
  | arg :: rest =>
    if arg = "--version" ∨ arg.toList.take 2 = ['-', 'V'] then some .version
    else Command.ofOptions? arg rest

end FusionGuards.CommandLine
