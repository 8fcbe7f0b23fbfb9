import FusionGuards.CommandLine.Run

namespace FusionGuards.CommandLine

def consulted : List String :=
  [enableVariable, forceDisableVariable, Config.singletonVariable, Config.horizontalVariable,
   Config.guardModeVariable, logVariable, "CLICOLOR_FORCE", "CLICOLOR", "NO_COLOR"]

def readVariables : IO (List (String × String)) :=
  consulted.filterMapM fun name => do
    return (← IO.getEnv name).map (name, ·)

def readText (name : String) : IO (Except String String) := do
  try
    return .ok (← IO.FS.readFile name)
  catch
    | .noFileOrDirectory .. => return .error noSuchFile
    | e => return .error (toString e)

def Command.files : Command → List String
  | .checkTensor signature tensor => [signature, tensor]
  | _ => []

end FusionGuards.CommandLine

open FusionGuards CommandLine in
def main (args : List String) : IO UInt32 := do
  let environment := Environment.ofList (← readVariables)
  let terminal ← (← IO.getStdout).isTty
  let names := ((Command.ofArgs? args).map Command.files).getD []
  let texts ← names.mapM fun name => return (name, ← readText name)
  let files (name : String) := (texts.lookup name).getD (.error noSuchFile)
  let report := run { environment, files, colour := coloured environment terminal } args
  for line in logLines ((logFilter? environment).getD []) report.events do
    IO.eprintln line
  IO.print report.value.output
  if let some e := report.value.error then
    IO.eprintln ("Error: " ++ e)
  if report.value.code = 2 then
    IO.eprintln "error: unknown command or malformed options"
  return .ofNat report.value.code
