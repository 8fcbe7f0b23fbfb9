import FusionGuards.Fuser.Environment
import FusionGuards.Report
import FusionGuards.Toml.Reader

namespace FusionGuards

structure Config where
  singletonFusion : Bool := false
  horizontalFusion : Bool := true
  /-- Without it every guard answers yes unchecked. -/
  guardMode : Bool := true
  deriving DecidableEq, Repr

namespace Config

def singletonVariable : String := "SPECGUARD_SINGLETON_FUSION"

def horizontalVariable : String := "SPECGUARD_HORIZONTAL_FUSION"

def guardModeVariable : String := "SPECGUARD_GUARD_MODE"

def overlaySetting (env : Environment) (variableName : String) (current : Bool) : Report Bool :=
  match env variableName with
  | none => pure current
  | some raw =>
    match Switch.toggle? raw with
    | some b => pure b
    | none => { value := current, events := [.toggleIgnored variableName raw] }

def overlay (c : Config) (env : Environment) : Report Config := do
  let singletonFusion ← overlaySetting env singletonVariable c.singletonFusion
  let horizontalFusion ← overlaySetting env horizontalVariable c.horizontalFusion
  let guardMode ← overlaySetting env guardModeVariable c.guardMode
  return { singletonFusion, horizontalFusion, guardMode }

def keys : List String := ["singleton_fusion", "horizontal_fusion", "guard_mode"]

def tableSetting (table : List (String × Toml.Value)) (key : String) (default : Bool) : Option Bool :=
  match table.lookup key with
  | none => some default
  | some (.bool b) => some b
  | some _ => none

def ofToml? (text : String) : Option Config := do
  let table ← Toml.read text
  let singletonFusion ← tableSetting table "singleton_fusion" false
  let horizontalFusion ← tableSetting table "horizontal_fusion" true
  let guardMode ← tableSetting table "guard_mode" true
  return { singletonFusion, horizontalFusion, guardMode }

inductive FileError
  | unreadable (file : String)
  | invalid (file : String)
  deriving DecidableEq, Repr

def FileError.message : FileError → String
  | unreadable file => "failed to read fuser config " ++ file
  | invalid file => "invalid fuser config " ++ file

def ofFile (file : String) (content : Option String) : Except FileError Config :=
  match content with
  | none => .error (.unreadable file)
  | some text =>
    match ofToml? text with
    | none => .error (.invalid file)
    | some c => .ok c

end Config

end FusionGuards
