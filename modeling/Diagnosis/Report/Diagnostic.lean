import Diagnosis.Json.Display
import Diagnosis.Severity

/-!
# Diagnostics

A `Diagnostic` is one problem of a submitted text, whichever tool has found it, together with an
explanation for people. `Diagnostic.toJson` is its form on the wire.

Line and column are zero where the tool has named no place. What tools say of rules and of the end
of a problem is passed on as it comes.
-/

namespace Diagnosis.Report

/-- One problem of a text. -/
structure Diagnostic where
  /-- How grave it is. -/
  severity : Severity
  /-- What is wrong. -/
  message : String
  /-- What that means. -/
  explanation : String
  /-- What to do about it. -/
  suggestion : String
  /-- The tool's name for the kind of problem. -/
  rule : Json := .null
  /-- The line. -/
  line : Int := 0
  /-- The column. -/
  column : Int := 0
  /-- The line on which it ends. -/
  endLine : Json := .null
  /-- The column at which it ends. -/
  endColumn : Json := .null
  /-- The tool's class of problems. -/
  category : Option String := none
  /-- The tool's code for the kind of problem. -/
  messageId : Json := .null
  deriving Inhabited, Repr

namespace Diagnostic

/-- Whether the tool has named a place. -/
def isLocated (d : Diagnostic) : Bool := 0 < d.line

/-- A diagnostic on the wire. -/
def toJson (d : Diagnostic) : Json :=
  .object
    ([("ruleId", d.rule), ("severity", .string d.severity.word), ("message", .string d.message),
        ("line", .int d.line), ("column", .int d.column), ("endLine", d.endLine),
        ("endColumn", d.endColumn), ("category", .ofString? d.category),
        ("errorExplanation", .string d.explanation), ("errorSuggestion", .string d.suggestion)]
      ++ (if d.messageId.isNull then [] else [("messageId", d.messageId)]))

end Diagnostic

/-- Why there is no diagnostic. -/
inductive DiagnosticError where
  /-- A word names no severity. -/
  | badSeverity (word : String)
  /-- The explanation or the suggestion is empty. -/
  | unexplained
  deriving Repr, DecidableEq

/-- The wording of an error. -/
def DiagnosticError.message : DiagnosticError → String
  | badSeverity word => Text.quoted word ++ " is not a valid Severity"
  | unexplained => "Diagnostic explanation and suggestion must not be empty"

/-- The severity that a word names. -/
def severityOf (word : String) : Except DiagnosticError Severity :=
  match Severity.ofWord? word with
  | some s => .ok s
  | none => .error (.badSeverity word)

/-- A diagnostic that explains itself. -/
def Diagnostic.explained (d : Diagnostic) : Except DiagnosticError Diagnostic :=
  if d.explanation.isEmpty || d.suggestion.isEmpty then .error .unexplained else .ok d

end Diagnosis.Report
