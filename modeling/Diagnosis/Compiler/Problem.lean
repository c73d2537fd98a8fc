import Diagnosis.Compiler.Line
import Diagnosis.Explain.Table
import Diagnosis.Report.Result
import Diagnosis.Secret.Hygiene
import Diagnosis.Text.Lines
import Diagnosis.Text.Numeral

/-!
# Problems that a compiler reports

Each line of a compiler's output that speaks of an error or a warning becomes one diagnostic, in
order. Colours and control characters count for nothing. A line that names a place gives a
diagnostic at that place; any other has none, and its text shows the name of the text instead of the
path of the file that the compiler was given. Lines that speak of neither are context.
-/

namespace Diagnosis.Compiler

open Diagnosis.Text Diagnosis.Report Diagnosis.Explain

/-- The name that stands for a rule in the diagnostics of a compiler. -/
def ruleName : String := "g++-compilation"

/-- A diagnostic with the explanation that fits its message. -/
def problem (severity : Severity) (message : String) (line column : Int)
    (category : Option String) : Diagnostic :=
  let entry := lookup (some ruleName) message
  { severity, message, explanation := entry.explanation, suggestion := entry.suggestion,
    rule := .string ruleName, line, column, category }

/-- The diagnostic at a place. -/
def LocatedLine.problem (l : LocatedLine) : Except NumeralFault Diagnostic := do
  let line ← readWhole l.line
  let column ← readWhole l.column
  return Compiler.problem l.severity (String.ofList l.message) line column
    ((warningOption? l.message).map String.ofList)

/-- How the file that the compiler is given is called. -/
structure Naming where
  /-- The path of the file; empty when it has none. -/
  path : String := ""
  /-- The name by which people know the text. -/
  name : String := placeholderName

/-- A line with the name of the text in place of the path. -/
def Naming.apply (n : Naming) (s : List Char) : List Char :=
  if n.path.isEmpty then s else replaceAll n.path.toList n.name.toList s

/-- The severity that a line without a place speaks of. -/
def spokenSeverity? (s : List Char) : Option Severity :=
  if occurs "error:".toList s then some .error
  else if occurs "warning:".toList s then some .warning
  else none

/-- The diagnostic that a line gives, if it gives one. A place with too long a number is a fault. -/
def readLine (naming : Naming) (raw : List Char) : Except NumeralFault (Option Diagnostic) :=
  let s := Secret.sanitize raw
  match LocatedLine.read? s with
  | some l => some <$> l.problem
  | none =>
    .ok ((spokenSeverity? s).map fun severity =>
      problem severity (String.ofList (naming.apply (strip s))) 0 0 none)

/-- The diagnostics in the output of a compiler. -/
def readOutput (naming : Naming) (output : String) : Except NumeralFault (List Diagnostic) := do
  let found ← (lines output.toList).mapM (readLine naming)
  return found.filterMap id

end Diagnosis.Compiler
