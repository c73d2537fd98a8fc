import Diagnosis.Decimal.Shortest
import Diagnosis.Json.Display
import Diagnosis.Report.Diagnostic
import Diagnosis.Text.Numeral

/-!
# Pylint records

Pylint reports each problem as a JSON object. `Diagnostic.ofRecord` makes a diagnostic of one. What
is missing or empty gets a default; texts are shown as messages show values; places are made whole
numbers where that is possible.
-/

namespace Diagnosis.Pylint

open Diagnosis.Text Diagnosis.Report

/-- Why a record gives no diagnostic. -/
inductive RecordFault where
  /-- It is no object. -/
  | notAnObject
  /-- A place is a list or an object. -/
  | notANumber
  /-- A place is a text, but no numeral. -/
  | badNumeral (fault : NumeralFault)
  /-- A place is the number that is no number. -/
  | nan
  /-- A place is infinite. -/
  | infinite
  deriving Repr, DecidableEq

/-- The wording of a fault. -/
def RecordFault.message : RecordFault → String
  | notAnObject => "a record must be an object"
  | notANumber => "a place must be a number or a text"
  | badNumeral fault => fault.message
  | nan => "cannot convert float NaN to integer"
  | infinite => "cannot convert float infinity to integer"

/-- A place as a whole number; what is missing or empty counts as zero. -/
def readPlace (v : Json) : Except RecordFault Int :=
  if !v.isTruthy then .ok 0
  else
    match v with
    | .bool b => .ok b.toNat
    | .int n => .ok n
    | .float x =>
      if x.isNaN then .error .nan
      else if x.isInf then .error .infinite
      else .ok (Decimal.truncate x)
    | .string s => (readWhole s.toList).mapError .badNumeral
    | _ => .error .notANumber

/-- The types of records that count as errors. -/
def errorTypes : List String := ["fatal", "error"]

/-- A field as a text; what is missing or empty has the default. -/
def textOf (v : Json) (default : String) : String := if v.isTruthy then v.display else default

/-- The diagnostic that a record gives. -/
def readRecord (record : Json) : Except RecordFault Diagnostic :=
  match record with
  | .object _ => do
    let type := textOf (record.getD "type") "warning"
    let message := textOf (record.getD "message") ""
    let symbol := record.getD "symbol"
    let line ← readPlace (record.getD "line")
    let column ← readPlace (record.getD "column")
    return {
      severity := if errorTypes.contains type then .error else .warning
      message
      explanation := "Pylint found a '" ++ type ++ "' type issue: " ++ message ++ "."
      suggestion :=
        "Review the Python code at line " ++ toString line ++ ", column " ++ toString column
          ++ ". Consult Pylint documentation for rule '" ++ symbol.display ++ "'."
      rule := symbol
      line
      column
      endLine := record.getD "endLine"
      endColumn := record.getD "endColumn"
      category := some type
      messageId := record.getD "message-id" }
  | _ => .error .notAnObject

end Diagnosis.Pylint
