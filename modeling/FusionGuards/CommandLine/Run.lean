import FusionGuards.CommandLine.Filter
import FusionGuards.Fuser.Basic
import FusionGuards.Json.Reader
import FusionGuards.Tensor.Codec

namespace FusionGuards.CommandLine

inductive Style
  | bold
  | green
  | yellow
  | boldGreen
  | boldRed
  deriving DecidableEq, Repr

def Style.code : Style → String
  | bold => "1"
  | green => "32"
  | yellow => "33"
  | boldGreen => "1;32"
  | boldRed => "1;31"

def isOn? (env : Environment) (name : String) : Option Bool := (env name).map (· != "0")

def coloured (env : Environment) (terminal : Bool) : Bool :=
  if isOn? env "CLICOLOR_FORCE" = some true then true
  else if (env "NO_COLOR").isSome then false
  else (isOn? env "CLICOLOR").getD true && terminal

def paint (colour : Bool) (style : Style) (s : String) : String :=
  if colour then "\x1b[" ++ style.code ++ "m" ++ s ++ "\x1b[0m" else s

structure Outcome where
  code : Nat
  output : String := ""
  error : Option String := none
  deriving DecidableEq, Repr

structure Surroundings where
  environment : Environment
  files : String → Except String String
  colour : Bool

def noSuchFile : String := "No such file or directory (os error 2)"

def causedBy (outer inner : String) : String := outer ++ "\n\nCaused by:\n    " ++ inner

def failure (message : String) : Outcome := { code := 1, error := some message }

def success (lines : List String) : Outcome := { code := 0, output := .join (lines.map (· ++ "\n")) }

def row (label value : String) : String :=
  .ofList (List.replicate (20 - label.length) ' ') ++ label ++ ": " ++ value

def yesOrNo (colour b : Bool) : String :=
  if b then paint colour .green "yes" else paint colour .yellow "no"

def describeSizes (sizes : List Int64) : String :=
  "[" ++ ", ".intercalate (sizes.map Word.text) ++ "]"

def verdict (colour passed : Bool) : Outcome :=
  success [if passed then paint colour .boldGreen "pass" else paint colour .boldRed "fail"]

def Surroundings.host (s : Surroundings) : Host := ⟨{}, s.environment⟩

def status (s : Surroundings) : Report Outcome := do
  let config ← Config.overlay {} s.environment
  let fuser : Fuser Unit := .ofConfig config
  match ← fuser.enablement.isEnabled s.host with
  | (.error e, _) => return failure (causedBy "failed to resolve fuser enablement" e.message)
  | (.ok enabled, e) =>
    let (default, e) ← e.readDefault s.environment
    let (forced, e) ← e.readForced s.environment
    let yes := yesOrNo s.colour
    return success [
      paint s.colour .bold "[Fuser]",
      row "enabled" (yes enabled),
      row "override" (Event.describeSwitch e.assigned),
      row "environment" (Event.describeSwitch default),
      row "force disabled" (toString forced),
      paint s.colour .bold "[Capability]",
      row "accelerator" (yes s.host.capabilities.accelerator),
      row "pass manager" (yes s.host.capabilities.passManager),
      row "profiling executor" (yes s.host.capabilities.profilingExecutor),
      paint s.colour .bold "[Guards]",
      row "guard mode" (yes fuser.guardMode),
      row "singleton fusion" (toString fuser.singletonFusion),
      row "horizontal fusion" (toString fuser.horizontalFusion)]

def inferView (s : Surroundings) (sizes view : List Int64) : Report Outcome := do
  match ← (View.infer sizes view).run with
  | .error f => return failure f.message
  | .ok none => return success [paint s.colour .boldRed "infeasible"]
  | .ok (some resolved) =>
    return success [paint s.colour .boldGreen "view" ++ " " ++ describeSizes resolved]

def checkView (s : Surroundings) (sizes view : List Int64) (c : ViewConstraint) : Report Outcome := do
  Report.emit (.checkingView c)
  match ← (c.evaluate sizes view).run with
  | .error f => return failure f.message
  | .ok passed => return verdict s.colour passed

def load (s : Surroundings) (ofJson? : Json → Option α) (file : String) : Except String α := do
  match s.files file with
  | .error reason => .error (causedBy ("failed to read " ++ file) reason)
  | .ok text =>
    match (Json.read text).bind ofJson? with
    | none => .error ("failed to parse " ++ file)
    | some a => .ok a

def checkTensor (s : Surroundings) (signature tensor : String) : Report Outcome := do
  match load s Signature.ofJson? signature with
  | .error message => return failure message
  | .ok signature =>
    match load s Tensor.ofJson? tensor with
    | .error message => return failure message
    | .ok tensor =>
      match ← (signature.complies tensor true).run with
      | .error f => return failure f.message
      | .ok passed => return verdict s.colour passed

def versionText : String := "specguard 0.1.0"

def Command.run (s : Surroundings) : Command → Report Outcome
  | .version => pure (success [versionText])
  | .status => CommandLine.status s
  | .inferView sizes view => CommandLine.inferView s sizes view
  | .checkView sizes view tensorRules viewRules =>
    CommandLine.checkView s sizes view (.ofRaw tensorRules viewRules)
  | .checkTensor signature tensor => CommandLine.checkTensor s signature tensor

/-- Runs what the arguments stand for. Refused arguments end with code 2, and without a filter for the log nothing is
run and the code is 101. -/
def run (s : Surroundings) (args : List String) : Report Outcome :=
  match logFilter? s.environment, Command.ofArgs? args with
  | none, _ => pure { code := 101 }
  | some _, none => pure { code := 2 }
  | some _, some command => command.run s

end FusionGuards.CommandLine
