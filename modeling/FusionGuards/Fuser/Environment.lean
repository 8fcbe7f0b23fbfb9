import FusionGuards.Text.Characters

namespace FusionGuards

abbrev Environment := String → Option String

namespace Environment

def empty : Environment := fun _ => none

def ofList (pairs : List (String × String)) : Environment := fun name => pairs.lookup name

def set (e : Environment) (name : String) (value : Option String) : Environment :=
  fun other => if other = name then value else e other

end Environment

namespace Switch

def enables (s : String) : Bool := s != "0" && s != "OFF"

def forces (s : String) : Bool := s == "1" || s == "ON"

def onWords : List String := ["1", "on", "true", "yes"]

def offWords : List String := ["0", "off", "false", "no"]

def word (s : String) : String := .ofList ((Text.trim s.toList).map Char.toLower)

def toggle? (s : String) : Option Bool :=
  if word s ∈ onWords then some true
  else if word s ∈ offWords then some false
  else none

end Switch

structure Capabilities where
  accelerator : Bool := false
  passManager : Bool := false
  profilingExecutor : Bool := false
  deriving DecidableEq, Repr

def Capabilities.suffice (c : Capabilities) : Bool := c.accelerator && c.passManager && c.profilingExecutor

structure Host where
  capabilities : Capabilities
  environment : Environment

end FusionGuards
