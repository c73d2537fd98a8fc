import Diagnosis.CommandLine.Run
import Diagnosis.JavaScript.Parse

/-!
# The command line

Reads what the program finds around it and carries out what `CommandLine.run` tells.

What is not here: running tools, listening on sockets and asking explanation services. A tool counts
as one that does not start, and requests are left to whoever hosts `Http.App`.
-/

namespace Diagnosis.CommandLine

open Diagnosis.Text

/-- The variables that a process has been started with, as the system lists them. -/
def readEnvironment : IO Config.Environment := do
  try
    let bytes := (← IO.FS.readBinFile "/proc/self/environ").toList
    return (splitAt 0 bytes).filterMap fun entry =>
      let text := decode entry
      if text.contains '=' then
        some (String.ofList (text.takeWhile (· ≠ '=')),
          String.ofList ((text.dropWhile (· ≠ '=')).drop 1))
      else none
  catch _ => return []

/-- The bytes of a file, if it can be read. -/
def readBytes? (path : String) : IO (Option Bytes) := do
  try
    return some (← IO.FS.readBinFile path).toList
  catch _ => return none

/-- Whether a program can be found in one of the directories. -/
def findProgram (directories : List String) (name : String) : IO Bool := do
  let places := if name.contains '/' then [name] else directories.map (· ++ "/" ++ name)
  places.anyM fun place => return (← readBytes? place).isSome

/-- The files that may be read on behalf of a command line. -/
def filesOf (line : List String) : List String :=
  match Arguments.read line with
  | .error _ => []
  | .ok a =>
    let submitted := match a.mode with
      | .analyze path => [path]
      | _ => []
    (a.config.getD defaultConfigPath) :: submitted

/-- What the program finds, given the files that are there and the programs that can be found. -/
def machineOf (env : Config.Environment) (files : List (String × Bytes))
    (present available : String → Bool) : Machine :=
  let noTool : Tool.Runner := fun _ => .notStarted "tools cannot be run here" none
  { surroundings := { env, rcfile := "pylintrc", isFile := present }
    contents? := fun path => files.lookup path
    isAvailable := available
    workplace :=
      { parse := JavaScript.parse, scratch := ⟨"/tmp", 0, true⟩, pylint := noTool
        compiler := noTool, consultant := {} } }

/-- The files and the programs that the configuration of a command line names. -/
def namedIn (m : Machine) (line : List String) : List String × List String :=
  match Arguments.read line with
  | .error _ => ([], [])
  | .ok a =>
    match m.loadConfig a with
    | .error _ => ([], [])
    | .ok c => ([c.python.rcfile], [c.python.pylintPath, c.compiler.compiler])

/-- What the program finds around it. -/
def findMachine (line : List String) : IO Machine := do
  let env ← readEnvironment
  let files ← (filesOf line).filterMapM fun path => do
    return (← readBytes? path).map fun bytes => (path, bytes)
  let (wanted, programs) := namedIn (machineOf env files (fun _ => true) fun _ => true) line
  let present ← wanted.filterM fun path => return (← readBytes? path).isSome
  let directories := (splitAt ':' ((env.lookup "PATH").getD "").toList).map String.ofList
  let available ← programs.filterM (findProgram directories)
  return machineOf env files present.contains available.contains

end Diagnosis.CommandLine

/-- The program. -/
def main (line : List String) : IO UInt32 := do
  let outcome := Diagnosis.CommandLine.run (← Diagnosis.CommandLine.findMachine line) line
  IO.print outcome.output
  match outcome.complaint with
  | some complaint => IO.eprintln complaint
  | none => pure ()
  match outcome.served with
  | some (host, port) =>
    IO.eprintln ("requests to " ++ host ++ ":" ++ toString port ++ " are not served here")
  | none => pure ()
  return UInt32.ofNat outcome.exit
