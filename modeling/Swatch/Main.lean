import Std.Time.Format
import Swatch.CommandLine.Run

/-!
# The program

Gathers what a command needs from the outside (arguments, variables, files, the time), runs it and
writes what it brings about.
-/

namespace Swatch.Program

open Swatch.CommandLine

/-- The variables that matter to a command. -/
def variableNames : List String := [configVariable, topicsVariable]

/-- The paths that a command may open. -/
def neededPaths (place : Settings.Place) (environment : List (String × String))
    (command : Command) : List Settings.Path :=
  match command with
  | .help => []
  | .extract invocation =>
    place.here.resolve invocation.input ::
      ((environment.lookup configVariable).toList.map place.locateSetting ++
        (place.locate? invocation.config).toList)

/-- A disk with what is at a path, if anything is. -/
def visit (disk : Settings.Disk) (path : Settings.Path) : IO Settings.Disk := do
  let file := (← IO.currentDir) / path.shown
  if ← file.isDir then return disk.putDirectory path
  try
    let bytes ← IO.FS.readBinFile file
    return disk.put path ⟨bytes.toList, .ofNat 0⟩
  catch _ => return disk

/-- What is left of a stream. -/
partial def readAll (stream : IO.FS.Stream) (text : String) : IO String := do
  let line ← stream.getLine
  if line.isEmpty then return text else readAll stream (text ++ line)

/-- What the command runs in. -/
def surroundings (arguments : List String) : IO Surroundings := do
  let environment ← variableNames.filterMapM fun name => do
    return (← IO.getEnv name).map (name, ·)
  let here := Settings.Path.root.resolve (← IO.currentDir).toString
  let home := (← IO.getEnv "HOME").getD ""
  let place : Settings.Place := ⟨here, home, []⟩
  let command := (Command.read arguments).toOption.getD .help
  let needed := (neededPaths place environment command).flatMap fun path => path :: path.above
  let disk ← needed.foldlM visit (({} : Settings.Disk).putDirectory here)
  let standardInput ←
    match command with
    | .extract invocation =>
      if invocation.input = standardInputName then readAll (← IO.getStdin) "" else pure ""
    | .help => pure ""
  let now ← Std.Time.PlainDateTime.now
  return ⟨⟨place, disk, true⟩, environment, standardInput, now.format "yyyy-MM-dd HH:mm:ss"⟩

end Swatch.Program

/-- Runs the command that the arguments ask for. -/
def main (arguments : List String) : IO UInt32 := do
  let outcome := Swatch.CommandLine.run (← Swatch.Program.surroundings arguments) arguments
  (← IO.getStdout).putStr outcome.output
  (← IO.getStderr).putStr outcome.errors
  return outcome.status.toUInt32
