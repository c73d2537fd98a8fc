import Diagnosis.Report.Diagnostic

/-!
# Results

What an analysis comes to. A completed analysis has diagnostics, the mended text and what the
explanation service has said; it need not mean that the text is correct. A failed one has an error.
-/

namespace Diagnosis.Report

/-- What the explanation service has said. Each part may be missing. -/
structure Reply where
  /-- What is wrong. -/
  explanation : Option String := none
  /-- What to do about it. -/
  suggestion : Option String := none
  /-- The mended text. -/
  fixedCode : Option String := none
  deriving Repr, DecidableEq, Inhabited

namespace Reply

/-- No reply. -/
def none : Reply := {}

/-- Whether every part is missing. -/
def isEmpty (r : Reply) : Bool :=
  r.explanation.isNone && r.suggestion.isNone && r.fixedCode.isNone

end Reply

/-- The name of a text that comes from no file. -/
def placeholderName : String := "<text>"

/-- What an analysis comes to. -/
inductive Result where
  /-- It could not be carried out. -/
  | failed (error : String) (details : Option String)
  /-- It was carried out. -/
  | completed (diagnostics : List Diagnostic) (fixedCode : String) (reply : Reply)
      (details : Option String)
  deriving Inhabited, Repr

namespace Result

/-- A failure without details. -/
def failure (error : String) : Result := failed error none

/-- Whether the analysis was carried out. -/
def isSuccess : Result → Bool
  | failed _ _ => false
  | completed _ _ _ _ => true

/-- The diagnostics. -/
def diagnostics : Result → List Diagnostic
  | failed _ _ => []
  | completed ds _ _ _ => ds

/-- Whether one of the diagnostics is an error. -/
def hasErrors (r : Result) : Bool := r.diagnostics.any (·.severity == .error)

/-- The field for details, if there are any. -/
def detailFields (details : Option String) : List (String × Json) :=
  (details.map fun d => ("details", Json.string d)).toList

/-- A result on the wire. -/
def toJson : Result → Json
  | failed error details =>
    .object ([("success", .bool false), ("error", .string error)] ++ detailFields details)
  | completed ds fixedCode reply details =>
    .object
      ([("success", .bool true),
          ("analysis", .array [.object
            [("filePath", .string placeholderName),
              ("messages", .array (ds.map (·.toJson)))]]),
          ("fixedCode", .string fixedCode), ("aiExplanation", .ofString? reply.explanation),
          ("aiSuggestion", .ofString? reply.suggestion),
          ("aiFixedCode", .ofString? reply.fixedCode)]
        ++ detailFields details)

end Result

end Diagnosis.Report
