import Diagnosis.Explain.Consult
import Diagnosis.Text.Loose
import Diagnosis.Text.Numeral

/-!
# Outcomes of analyses

An analysis comes to a `Result`, or to an `AnalysisError` where no result can be given. An `Outcome`
also says what the analysis has done outside: which tool runs it has asked for and what it has asked
the explanation service.
-/

namespace Diagnosis.Analysis

open Diagnosis.Text Diagnosis.Report Diagnosis.Explain

/-- Why an analysis has no result. -/
inductive AnalysisError where
  /-- The tool has not started. -/
  | notStarted (message : String)
  /-- A place has too long a number, or something like it. -/
  | badNumeral (fault : NumeralFault)
  /-- The answer of the explanation service is an object that cannot be read. -/
  | badReply (fault : Json.Fault)
  /-- A place is infinite. -/
  | infinitePlace
  /-- The output of a tool nests too deep. -/
  | tooDeep
  deriving Repr, DecidableEq

/-- The wording of an error. -/
def AnalysisError.message : AnalysisError → String
  | notStarted message => message
  | badNumeral fault => fault.message
  | badReply fault => fault.message
  | infinitePlace => "cannot convert float infinity to integer"
  | tooDeep => Json.Fault.message .tooDeep

/-- What an analysis has done and what it has come to. -/
structure Outcome where
  /-- The arguments of the tool runs that it has asked for. -/
  calls : List (List String) := []
  /-- What it has asked the explanation service. -/
  prompts : List String := []
  /-- What it has come to. -/
  result : Except AnalysisError Result

namespace Outcome

/-- A failed analysis. -/
def failed (error : String) (details : Option String) (calls : List (List String) := []) :
    Outcome :=
  { calls, result := .ok (.failed error details) }

/-- An analysis without a result. -/
def stopped (error : AnalysisError) (calls : List (List String) := []) : Outcome :=
  { calls, result := .error error }

end Outcome

/-- What an analysis has found before anyone explains it. -/
structure Findings where
  /-- The submitted text. -/
  code : String
  /-- The language, as the explanation service is told. -/
  language : String
  /-- The diagnostics. -/
  diagnostics : List Diagnostic
  /-- The mended text. -/
  fixedCode : String
  /-- What else is to be said. -/
  details : Option String := none
  /-- Whether there is something to explain. -/
  noteworthy : Bool := !diagnostics.isEmpty

/-- A completed analysis: the findings with an explanation, if there is something to explain. -/
def Findings.explained (f : Findings) (consultant : Consultant) (calls : List (List String) := []) :
    Outcome :=
  let consultation : Consultation :=
    if f.noteworthy then consultant.consult f.code f.language f.diagnostics else {}
  { calls
    prompts := consultation.prompts
    result :=
      match consultation.outcome with
      | .ok reply => .ok (.completed f.diagnostics f.fixedCode reply f.details)
      | .error fault => .error (.badReply fault) }

end Diagnosis.Analysis
