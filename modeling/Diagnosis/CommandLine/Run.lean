import Diagnosis.CommandLine.Arguments
import Diagnosis.Config.Load
import Diagnosis.Health.Checks
import Diagnosis.Json.Write
import Diagnosis.Service
import Diagnosis.Submission
import Diagnosis.Version

/-!
# The program

What the program does on a command line: it reads its configuration and then serves requests, or
does the one thing that it is asked for. What it does outside is told by an `Outcome`, which the
outermost layer carries out.

Exit status zero means that all is well, one that something has gone wrong, and two that the command
line cannot be understood.
-/

namespace Diagnosis.CommandLine

open Diagnosis.Text Diagnosis.Analysis

/-- What the program finds around it. -/
structure Machine where
  /-- What configurations depend on. -/
  surroundings : Config.Surroundings
  /-- The bytes of the file of a path, if there is one. -/
  contents? : String → Option Bytes
  /-- Whether a program can be found. -/
  isAvailable : String → Bool
  /-- What analyses need from outside. -/
  workplace : Workplace

/-- How the log is set up. -/
structure LogSetup where
  /-- The level from which on events are logged. -/
  level : Logging.Level
  /-- The form of log lines. -/
  format : Logging.Format
  /-- The log file, once the configuration is read. -/
  file : Option Config.LogFile := none
  deriving Repr

/-- What the program does. -/
structure Outcome where
  /-- How the log is set up, one time after the other. -/
  logging : List LogSetup := []
  /-- What is printed. -/
  output : String := ""
  /-- The address and the port on which requests are served, if they are. -/
  served : Option (String × Int) := none
  /-- What has gone wrong, in words. -/
  complaint : Option String := none
  /-- The exit status. -/
  exit : Nat

/-- The path of the configuration file that is read if none is given. -/
def defaultConfigPath : String := "config/config.yaml"

/-- Why the program cannot do its work. -/
inductive Trouble where
  /-- There is no file of the path. -/
  | noFile (path : String)
  /-- The configuration file is not in UTF-8. -/
  | notText (path : String)
  /-- There is no configuration. -/
  | badConfig (error : Config.LoadError)
  /-- There is no service. -/
  | noService (fault : ServiceFault)
  /-- The file holds no code. -/
  | noCode
  /-- The analysis has no result. -/
  | noResult (error : AnalysisError)

/-- The wording of a trouble. -/
def Trouble.message : Trouble → String
  | noFile path => "file not found: " ++ path
  | notText path => "not UTF-8: " ++ path
  | badConfig error => error.message
  | noService fault => fault.message
  | noCode => Submission.Fault.noCode.message
  | noResult error => error.message

namespace Machine

/-- The text of a configuration file. -/
def text (m : Machine) (path : String) : Except Trouble (List Char) :=
  match m.contents? path with
  | none => .error (.noFile path)
  | some bytes => (decodeStrict bytes).mapError fun _ => .notText path

/-- The configuration file that is read, if one is. -/
def configFile (m : Machine) (a : Arguments) : Except Trouble (Option (String × List Char)) :=
  match a.config with
  | some path => (fun text => some (path, text)) <$> m.text path
  | none =>
    if (m.contents? defaultConfigPath).isSome then
      (fun text => some (defaultConfigPath, text)) <$> m.text defaultConfigPath
    else .ok none

/-- The configuration without what the command line says about it. -/
def loadConfig (m : Machine) (a : Arguments) : Except Trouble Config := do
  (Config.load m.surroundings (← m.configFile a)).mapError .badConfig

/-- The submission of a file. -/
def submission (m : Machine) (path : String) (language : Option String) :
    Except Trouble Submission :=
  match m.contents? path with
  | none => .error (.noFile path)
  | some data =>
    let submitted := match language.filter (!·.isEmpty) with
      | some l => Submission.ofPaste (some (.text (decodeString data))) (some (.text l))
      | none => Submission.ofUpload (String.ofList (FilePath.read path.toList).name) data
    submitted.mapError fun .noCode => .noCode

/-- The result for a file. -/
def analyzeFile (m : Machine) (c : Config) (path : String) (language : Option String) :
    Except Trouble Report.Result := do
  let submission ← m.submission path language
  let router ← (m.workplace.router c).mapError .noService
  let language := (submission.language.strict.toOption).getD ""
  (router.analyze submission.code language).result.mapError .noResult

end Machine

/-- The configuration with what the command line says about the server. -/
def Arguments.adjust (a : Arguments) (c : Config) : Config :=
  let host := (a.host.filter (!·.isEmpty)).getD c.server.host
  let port := (a.port.filter (· ≠ 0)).getD c.server.port
  { c with server := { c.server with host, port } }

/-- How the log is set up before the configuration is read. -/
def Arguments.logSetup (a : Arguments) : LogSetup :=
  { level := if a.debug then .debug else .info, format := a.format }

/-- How the log is set up by a configuration. -/
def logSetupOf (c : Config) : LogSetup :=
  { level := c.log.level, format := c.log.format, file := some c.log.file }

namespace Outcome

/-- Nothing can be done. -/
def troubled (t : Trouble) : Outcome := { complaint := some t.message, exit := 1 }

/-- A result is printed. -/
def ofResult : Except Trouble Report.Result → Outcome
  | .error t => troubled t
  | .ok r => { output := r.toJson.pretty ++ "\n", exit := if r.isSuccess then 0 else 1 }

/-- An outcome with log set-ups before those of its own. -/
def after (setups : List LogSetup) (o : Outcome) : Outcome :=
  { o with logging := setups ++ o.logging }

end Outcome

/-- What the program does with its configuration. -/
def perform (m : Machine) (a : Arguments) (c : Config) : Outcome :=
  match a.mode with
  | .dryRun => { exit := 0 }
  | .healthCheck =>
    let report := Health.run c m.workplace.parse m.isAvailable
    { exit := if report.isHealthy then 0 else 1 }
  | .analyze path => .ofResult (m.analyzeFile c path a.language)
  | .serve =>
    match m.workplace.router c with
    | .error fault => .troubled (.noService fault)
    | .ok _ => { served := some (c.server.host, c.server.port), exit := 0 }

/-- What the program does with its arguments. -/
def runWith (m : Machine) (a : Arguments) : Outcome :=
  match m.loadConfig a with
  | .error t => (Outcome.troubled t).after [a.logSetup]
  | .ok c => (perform m a (a.adjust c)).after [a.logSetup, logSetupOf c]

/-- How the program is used. -/
def usage : String :=
  "usage: code-debugger [-h] [--version] [-c CONFIG] [-d] [--format \x7bjson,console\x7d]\n"
    ++ "                     [--host HOST] [--port PORT]\n"
    ++ "                     [--dry-run | --health-check | --analyze FILE]\n"
    ++ "                     [--language LANGUAGE]\n"

/-- What the program does on a command line. -/
def run (m : Machine) (line : List String) : Outcome :=
  match Arguments.read line with
  | .error .help => { output := usage, exit := 0 }
  | .error .version => { output := "code-debugger " ++ version ++ "\n", exit := 0 }
  | .error (.refused fault) => { complaint := some (usage ++ fault.message), exit := 2 }
  | .ok a => runWith m a

end Diagnosis.CommandLine
