import Diagnosis.Severity
import Diagnosis.Syntax.Source

/-!
# Messages and fixes

What the linter says about a text. A `Message` points to a place and may carry a `Fix`, an edit of
the text that removes its cause. A `Finding` is a message before it is known which rule, at which
severity, made it.
-/

namespace Diagnosis.Lint

open Diagnosis.Text Diagnosis.Syntax

/-- Replaces the bytes from `start` up to but not including `stop`. Offsets are read as in
`Text.slice`, so one below zero counts from the end. -/
structure Fix where
  /-- The offset of the first byte that is replaced. -/
  start : Int
  /-- The offset after the last byte that is replaced. -/
  stop : Int
  /-- The bytes that come in. -/
  text : Bytes
  deriving Repr, DecidableEq

/-- What a rule found. -/
structure Finding where
  /-- What is wrong. -/
  message : String
  /-- Where it begins. -/
  start : Place
  /-- Where it ends, when that is known. -/
  stop : Option Place := none
  /-- How to mend it. -/
  fix : Option Fix := none
  deriving Repr, DecidableEq

/-- One problem of a text. -/
structure Message where
  /-- The name of the rule that found it; none for a text that does not parse. -/
  rule : Option String
  /-- How grave it is. -/
  severity : Severity
  /-- What is wrong. -/
  message : String
  /-- Where it begins. -/
  start : Place
  /-- Where it ends, when that is known. -/
  stop : Option Place := none
  /-- Whether the text does not parse. -/
  fatal : Bool := false
  /-- How to mend it. -/
  fix : Option Fix := none
  deriving Repr, DecidableEq

/-- The message that a rule makes of what it found. -/
def Finding.toMessage (rule : String) (severity : Severity) (f : Finding) : Message :=
  { rule := some rule, severity, message := f.message, start := f.start, stop := f.stop,
    fix := f.fix }

/-- The fixes that messages carry, in their order. -/
def fixesOf (messages : List Message) : List Fix := messages.filterMap (·.fix)

/-! ## Applying fixes -/

/-- Whether a fix comes before another or at the same place. -/
def Fix.le (a b : Fix) : Bool := a.start < b.start || (a.start == b.start && a.stop ≤ b.stop)

/-- Applies sorted fixes to the text from `cursor` on. A fix that does not start after `lastStop`,
where the previous applied fix ended, is left out. Also counts the applied fixes. -/
def applyFrom (data : Bytes) (cursor lastStop : Int) : List Fix → Bytes × Nat
  | [] => (sliceFrom data cursor, 0)
  | f :: fs =>
    if f.start ≤ lastStop then applyFrom data cursor lastStop fs
    else
      let (rest, applied) := applyFrom data f.stop f.stop fs
      (slice data cursor f.start ++ f.text ++ rest, applied + 1)

/-- Applies fixes in the order of the text and counts those that were applied. Of two fixes that
touch or overlap the second is left for a later pass. -/
def applyFixes (data : Bytes) (fixes : List Fix) : Bytes × Nat :=
  applyFrom data 0 (-1) (fixes.mergeSort Fix.le)

end Diagnosis.Lint
