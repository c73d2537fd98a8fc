import Diagnosis.Analysis.Outcome
import Diagnosis.Pylint.Record
import Diagnosis.Tool.Run
import Diagnosis.Tool.Scratch

/-!
# Analysis of Python

Python is written to a scratch file on which pylint is run. Its report is a JSON array of records;
output that cannot be understood makes the analysis fail, with that output as details.
-/

namespace Diagnosis.Analysis

open Diagnosis.Text Diagnosis.Report Diagnosis.Explain Diagnosis.Tool Diagnosis.Pylint

/-- What analyses Python. -/
structure PythonAnalyzer where
  /-- The configuration file of pylint. -/
  rcfile : String
  /-- Where scratch files are made. -/
  scratch : Scratch
  /-- Runs pylint. -/
  runner : Runner
  /-- Who asks the explanation service. -/
  consultant : Consultant

/-- How a report that gives no diagnostics ends the analysis. -/
inductive ReportFault where
  /-- It cannot be understood. -/
  | unreadable
  /-- There is no result. -/
  | fatal (error : AnalysisError)

/-- How a record that gives no diagnostic ends the analysis. -/
def faultOfRecord : RecordFault → ReportFault
  | .infinite => .fatal .infinitePlace
  | _ => .unreadable

/-- The diagnostics of a report; a blank one has none. -/
def readReport (output : String) : Except ReportFault (List Diagnostic) :=
  if isBlankString output then .ok []
  else
    match Json.read output with
    | .error .tooDeep => .error (.fatal .tooDeep)
    | .error _ => .error .unreadable
    | .ok (.array records) => records.mapM fun r => (readRecord r).mapError faultOfRecord
    | .ok _ => .error .unreadable

namespace PythonAnalyzer

/-- What is said when pylint is missing. -/
def notInstalled : String :=
  "Pylint is not installed or not in your system's PATH. "
    ++ "Please install it (e.g., 'pip install pylint')."

/-- What is said when the scratch file cannot be written. -/
def setupFailed : String := "Failed to prepare Python code for analysis."

/-- What is said when the report cannot be understood. -/
def reportUnreadable : String := "Failed to parse Pylint output."

/-- What is said when pylint takes too long. -/
def timedOut : String := "Pylint did not finish within the configured timeout."

/-- What is said when pylint has not started. -/
def notStarted (cause : String) : String :=
  "Failed to run Pylint: " ++ cause ++ ". Is Pylint installed and in your PATH?"

/-- The arguments of pylint for a file. -/
def arguments (a : PythonAnalyzer) (path : String) : List String :=
  [path, "--output-format=json", "--rcfile=" ++ a.rcfile]

/-- What error output says about the run as a whole, if it says something. -/
def complaint? (output errors : String) : Option String :=
  if isBlankString errors then none
  else if isMissing "pylint" errors then some notInstalled
  else if output.isEmpty then some ("Pylint encountered an error: " ++ stripString errors)
  else none

/-- Analyses a text on which pylint has finished. -/
def judge (a : PythonAnalyzer) (code output errors : String) (calls : List (List String)) :
    Outcome :=
  match complaint? output errors with
  | some error => .failed error none calls
  | none =>
    match readReport output with
    | .error .unreadable => .failed reportUnreadable (some output) calls
    | .error (.fatal error) => .stopped error calls
    | .ok diagnostics =>
      Findings.explained { code, language := "python", diagnostics, fixedCode := code } a.consultant
        calls

/-- Analyses a text. -/
def analyze (a : PythonAnalyzer) (code : LooseText) : Outcome :=
  let path := a.scratch.path "temp_python_code" ".py"
  match a.scratch.write path code with
  | .error fault => .failed setupFailed (some fault.message)
  | .ok source =>
    let call := a.arguments path
    match a.runner call with
    | .notStarted message cause => .stopped (.notStarted (notStarted (cause.getD message))) [call]
    | .timedOut message => .failed timedOut (some message) [call]
    | .finished output errors _ => a.judge source output errors [call]

end PythonAnalyzer

end Diagnosis.Analysis
