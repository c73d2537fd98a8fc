import Diagnosis.Analysis.Outcome
import Diagnosis.Compiler.Problem
import Diagnosis.Tool.Run
import Diagnosis.Tool.Scratch

/-!
# Analysis of C++

C++ is written to a scratch file that is compiled; the program is never run. A compilation that has
finished is a completed analysis, even if the compiler finds nothing but errors.
-/

namespace Diagnosis.Analysis

open Diagnosis.Text Diagnosis.Report Diagnosis.Explain Diagnosis.Tool

/-- How the compiler is called. -/
structure CompilerSettings where
  /-- The path of the compiler. -/
  compiler : String := "g++"
  /-- The language standard. -/
  standard : String := "c++11"
  /-- Further arguments. -/
  extraFlags : List String := ["-Wall", "-Wextra"]
  deriving Repr, DecidableEq

/-- The name of the compiler without its directory. -/
def CompilerSettings.tool (s : CompilerSettings) : String :=
  String.ofList (FilePath.read s.compiler.toList).name

/-- What analyses C++. -/
structure CppAnalyzer where
  /-- How the compiler is called. -/
  settings : CompilerSettings
  /-- Where scratch files are made. -/
  scratch : Scratch
  /-- Runs the compiler. -/
  runner : Runner
  /-- Who asks the explanation service. -/
  consultant : Consultant

namespace CppAnalyzer

/-- What is said when the scratch file cannot be written. -/
def setupFailed : String := "Failed to prepare C++ code for analysis."

/-- What is said when the compiler takes too long. -/
def timedOut : String := "The C++ compiler did not finish within the configured timeout."

/-- What is said when the compiler is missing. -/
def notInstalled (tool : String) : String :=
  tool ++ " compiler is not installed or not in your system's PATH. Please install it."

/-- What is said when the compiler has not started. -/
def notStarted (tool cause : String) : String :=
  "Failed to run " ++ tool ++ ": " ++ cause ++ ". Is " ++ tool ++ " installed and in your PATH?"

/-- The arguments of the compiler. -/
def arguments (a : CppAnalyzer) (source executable : String) : List String :=
  [source, "-o", executable, "-std=" ++ a.settings.standard] ++ a.settings.extraFlags

/-- What is said of a compilation that has failed without a diagnostic. -/
def failureDetails (tool errors : String) (status : Int) : String :=
  let text := stripString errors
  if text.isEmpty then tool ++ " exited with code " ++ toString status else text

/-- Analyses a text whose compilation has finished. -/
def judge (a : CppAnalyzer) (source code errors : String) (status : Int)
    (calls : List (List String)) : Outcome :=
  let tool := a.settings.tool
  if !isBlankString errors && isMissing tool errors then .failed (notInstalled tool) none calls
  else
    match Compiler.readOutput { path := source } errors with
    | .error fault => .stopped (.badNumeral fault) calls
    | .ok diagnostics =>
      let failed := status != 0
      Findings.explained
        { code, language := "c++", diagnostics, fixedCode := code
          details :=
            if failed && diagnostics.isEmpty then some (failureDetails tool errors status) else none
          noteworthy := failed || !diagnostics.isEmpty }
        a.consultant calls

/-- Analyses a text. -/
def analyze (a : CppAnalyzer) (code : LooseText) : Outcome :=
  let source := a.scratch.path "temp_cpp_code" ".cpp"
  let executable := a.scratch.path "temp_cpp_executable" ""
  match a.scratch.write source code with
  | .error fault => .failed setupFailed (some fault.message)
  | .ok text =>
    let call := a.arguments source executable
    match a.runner call with
    | .notStarted message cause =>
      .stopped (.notStarted (notStarted a.settings.tool (cause.getD message))) [call]
    | .timedOut message => .failed timedOut (some message) [call]
    | .finished _ errors status => a.judge source text errors status [call]

end CppAnalyzer

end Diagnosis.Analysis
