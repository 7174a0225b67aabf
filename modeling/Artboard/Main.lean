import Artboard.CommandLine.Job

/-!
# The command

Runs one job on the files of the machine, from the current directory and with
the settings in the environment.
-/
namespace Artboard.CommandLine

open Storage

/-- The settings among the variables of the environment, written in capitals. -/
def environmentSettings : IO (List (String × String)) :=
  Settings.names.filterMapM fun name => do
    let fullName := "DESIGNRENDER_" ++ name.toUpper
    return (← IO.getEnv fullName).map fun value => (fullName, value)

def readInput (path : Path) : IO (Except Stop String) := do
  try
    return .ok (← IO.FS.readFile path.text)
  catch
    | .noFileOrDirectory _ _ _ => return .error (.missingInput path)
    | other => throw other

/-- Reads the input, makes the directory, draws and writes. -/
def perform (job : Job) : IO (Except Stop String) := do
  match (← readInput job.input) with
  | .error stop => return .error stop
  | .ok text =>
    match Job.composition text with
    | .error stop => return .error stop
    | .ok composition =>
      IO.FS.createDirAll job.output.text
      match job.files composition with
      | .error stop => return .error stop
      | .ok files =>
        for (path, text) in files do
          IO.FS.writeFile path.text text
        return .ok job.report

end Artboard.CommandLine

open Artboard.CommandLine in
def main (arguments : List String) : IO UInt32 := do
  let base := Artboard.Storage.Path.ofText (toString (← IO.currentDir))
  let outcome ←
    match Job.ofArguments base (← environmentSettings) arguments with
    | .ok job => perform job
    | .error stop => pure (.error stop)
  match outcome with
  | .ok report =>
    IO.print report
    return 0
  | .error stop =>
    IO.eprintln stop.description
    return stop.exitCode
