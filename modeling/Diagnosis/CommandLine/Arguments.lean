import Diagnosis.CommandLine.Switch
import Diagnosis.Logging.Settings
import Diagnosis.Text.Numeral
import Diagnosis.Text.Path

/-!
# Arguments

What the words of a command line ask for. A word that means nothing is a fault, but the words are
taken in their order: who asks for help before it gets help.
-/

namespace Diagnosis.CommandLine

open Diagnosis.Text

/-- What the program does. -/
inductive Mode where
  /-- It serves requests. -/
  | serve
  /-- It checks the configuration. -/
  | dryRun
  /-- It checks what analyses rely on. -/
  | healthCheck
  /-- It analyses the file of a path. -/
  | analyze (path : String)
  deriving Repr, DecidableEq

/-- Whether one mode may follow another on the command line. -/
def Mode.mayFollow : Mode → Mode → Bool
  | _, serve => true
  | dryRun, dryRun | healthCheck, healthCheck | analyze _, analyze _ => true
  | _, _ => false

/-- What the command line asks for. -/
structure Arguments where
  /-- The path of the configuration file. -/
  config : Option String := none
  /-- Whether to log what helps to find faults. -/
  debug : Bool := false
  /-- The form of log lines until the configuration is read. -/
  format : Logging.Format := .console
  /-- The address to listen on. -/
  host : Option String := none
  /-- The port to listen on. -/
  port : Option Int := none
  /-- What to do. -/
  mode : Mode := .serve
  /-- The language of the file to analyse. -/
  language : Option String := none
  deriving Repr, DecidableEq

/-- What else may come of a command line. -/
inductive Ending where
  /-- It asks how the program is used. -/
  | help
  /-- It asks for the version. -/
  | version
  /-- It cannot be understood. -/
  | refused (fault : Fault)
  deriving Repr, DecidableEq

namespace Arguments

/-- A path as it is written. -/
def pathOf (text : List Char) : String := (FilePath.read text).write

/-- The arguments with a mode. -/
def withMode (a : Arguments) (s : Switch) (mode : Mode) : Except Ending Arguments :=
  if mode.mayFollow a.mode then .ok { a with mode } else .error (.refused (.conflict s))

/-- The arguments with a switch and its value. -/
def add (a : Arguments) (given : Switch × List Char) : Except Ending Arguments :=
  let value := given.2
  let text := String.ofList value
  match given.1 with
  | .help => .error .help
  | .version => .error .version
  | .config => .ok { a with config := some (pathOf value) }
  | .debug => .ok { a with debug := true }
  | .format =>
    match Logging.Format.ofName? text with
    | some format => .ok { a with format }
    | none => .error (.refused (.badChoice value))
  | .host => .ok { a with host := some text }
  | .port =>
    match whole? value with
    | some port => .ok { a with port := some port }
    | none => .error (.refused (.badNumber value))
  | .dryRun => a.withMode .dryRun .dryRun
  | .healthCheck => a.withMode .healthCheck .healthCheck
  | .analyze => a.withMode .analyze (.analyze (pathOf value))
  | .language => .ok { a with language := some text }

/-- The arguments with the words that follow. `leftover` says whether there was a word before that
means nothing. -/
def addWords (a : Arguments) (leftover : Bool) : List Word → Except Ending Arguments
  | [] => if leftover then .error (.refused .leftover) else .ok a
  | .plain _ :: rest => addWords a true rest
  | .unknown :: rest => addWords a true rest
  | .switches (.error fault) :: _ => .error (.refused fault)
  | .switches (.ok c) :: rest =>
    match c.awaiting, rest with
    | none, rest => do
      addWords (← c.settled.foldlM add a) (leftover || c.leftover) rest
    | some s, .plain value :: rest => do
      addWords (← (c.settled ++ [(s, value)]).foldlM add a) leftover rest
    | some s, _ => .error (.refused (.missingValue s))

/-- The words of a command line. Behind two hyphens there is nothing that means anything. -/
def words (line : List String) : Except Fault (List Word) := do
  let before ← (line.takeWhile (· ≠ "--")).mapM fun w => Word.read w.toList
  return before ++ if line.contains "--" then [.unknown] else []

/-- The arguments that a command line writes. -/
def read (line : List String) : Except Ending Arguments := do
  addWords {} false (← (words line).mapError .refused)

end Arguments

end Diagnosis.CommandLine
