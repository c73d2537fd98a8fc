import Diagnosis.Text.Case
import Diagnosis.Text.Quoted

/-!
# Log settings

From which level on events are logged, in which form, and where to. Events always go to the console;
a log file is optional, and one that cannot be opened is left out.
-/

namespace Diagnosis.Logging

open Diagnosis.Text

/-- How grave an event is. -/
inductive Level where
  /-- For those who look for faults. -/
  | debug
  /-- What happens. -/
  | info
  /-- What may become a problem. -/
  | warning
  /-- What has failed. -/
  | error
  /-- What stops the service. -/
  | critical
  deriving Repr, DecidableEq, Inhabited

namespace Level

/-- The levels, in ascending order. -/
def all : List Level := [debug, info, warning, error, critical]

/-- The name of a level. -/
def name : Level → String
  | debug => "DEBUG"
  | info => "INFO"
  | warning => "WARNING"
  | error => "ERROR"
  | critical => "CRITICAL"

/-- The level of a name. -/
def ofName? (s : String) : Option Level := all.find? (·.name == s)

end Level

/-- The form of log lines. -/
inductive Format where
  /-- One JSON object a line. -/
  | json
  /-- Lines for people. -/
  | console
  deriving Repr, DecidableEq, Inhabited

namespace Format

/-- The name of a form. -/
def name : Format → String
  | json => "json"
  | console => "console"

/-- The form of a name. -/
def ofName? (s : String) : Option Format := [json, console].find? (·.name == s)

end Format

/-- Why log settings make no sense. -/
inductive SettingsFault where
  /-- There is no such level. -/
  | badLevel (name : String)
  /-- There is no such form. -/
  | badFormat (name : String)
  deriving Repr, DecidableEq

/-- The wording of a fault. -/
def SettingsFault.message : SettingsFault → String
  | badLevel name => quoted name ++ " is not a valid LogLevel"
  | badFormat name => quoted name ++ " is not a valid LogFormat"

/-- The level that is written in any case. -/
def readLevel (s : String) : Except SettingsFault Level :=
  match Level.ofName? (upper s) with
  | some level => .ok level
  | none => .error (.badLevel (upper s))

/-- The form that is written in any case. -/
def readFormat (s : String) : Except SettingsFault Format :=
  match Format.ofName? (lower s) with
  | some format => .ok format
  | none => .error (.badFormat (lower s))

/-- Where events are logged. -/
inductive Sink where
  /-- On the console. -/
  | console
  /-- In a file. -/
  | file (path : String)
  deriving Repr, DecidableEq

/-- Log settings. -/
structure Settings where
  /-- The level from which on events are logged. -/
  level : Level := .info
  /-- The form of log lines. -/
  format : Format := .json
  /-- The log file. -/
  file : Option String := none
  deriving Repr, DecidableEq

/-- Where events are logged, given which files can be opened. -/
def Settings.sinks (s : Settings) (canOpen : String → Bool) : List Sink :=
  .console :: (s.file.filter canOpen).toList.map .file

/-- The log file of a path, if it is wanted. -/
def wantedFile (path : Option String) (enabled : Bool) : Option String :=
  if enabled then path.filter (!·.isEmpty) else none

end Diagnosis.Logging
