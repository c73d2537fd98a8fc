import Diagnosis.Lint.Config
import Diagnosis.Lint.SyntaxError

/-!
# The linter

`verify` runs the rules over a text once. `lint` also mends the text in passes (`pass`): each applies
the fixes of the last run and runs the rules over the result. A `Halt` says why the passes end. The
messages always describe the text as it was given.

How a text becomes a tree is left open: a linter takes any function from bytes to trees.
-/

namespace Diagnosis.Lint

open Diagnosis.Text Diagnosis.Syntax

/-- The outcome of one run over a text. -/
structure Verdict where
  /-- The messages, in the order of the text. -/
  messages : List Message
  /-- Whether the text parsed. -/
  parsed : Bool
  deriving Repr

/-- Whether a message comes before another or at the same place. -/
def Message.le (a b : Message) : Bool :=
  a.start.line < b.start.line || (a.start.line == b.start.line && a.start.column ≤ b.start.column)

/-- Runs the rules over a text with the given tree. A tree with an error gives the one message for
it, and no rule is run. -/
def verifyTree (rules : List Rule) (data : Bytes) (tree : Tree) : Verdict :=
  let src := Source.ofBytes data
  if tree.hasError then ⟨[SyntaxError.message src (Site.walk tree) tree], false⟩
  else
    let subject := Subject.of src tree
    ⟨(rules.flatMap (·.messages subject)).mergeSort Message.le, true⟩

/-- A linter: rules, and a way to parse. -/
structure Linter where
  /-- The rules that are on, in the order in which they run. -/
  rules : List Rule
  /-- The tree of a text. -/
  parse : Bytes → Tree

/-- A text that is being mended. -/
structure Draft where
  /-- The text. -/
  data : Bytes
  /-- The fixes that are left to apply. -/
  fixes : List Fix
  deriving Repr

/-- A text with the fixes that one run of the rules asks for. -/
def Draft.of (data : Bytes) (verdict : Verdict) : Draft := ⟨data, fixesOf verdict.messages⟩

/-- Why a text is not mended any further. -/
inductive Halt where
  /-- The text did not parse in the first place. -/
  | unparsed
  /-- There is nothing left to mend. -/
  | clean
  /-- No fix could be applied. -/
  | unapplied
  /-- The fixes change nothing. -/
  | unchanged
  /-- The fixes would break the syntax. -/
  | broken
  /-- All passes are done. -/
  | spent
  deriving Repr, DecidableEq

/-- What the linter says of a text. -/
structure Report where
  /-- The messages for the text as it was given. -/
  messages : List Message
  /-- The mended text. -/
  output : String
  deriving Repr

namespace Linter

/-- The most passes in which a text is mended. -/
def passLimit : Nat := 10

/-- Runs the rules over a text once. -/
def verify (l : Linter) (data : Bytes) : Verdict := verifyTree l.rules data (l.parse data)

/-- Applies the fixes of a draft; the next draft, or the reason why the draft stays as it is. -/
def pass (l : Linter) (d : Draft) : Except Halt Draft :=
  if d.fixes.isEmpty then .error .clean
  else
    let (candidate, applied) := applyFixes d.data d.fixes
    if applied = 0 then .error .unapplied
    else if candidate = d.data then .error .unchanged
    else
      let verdict := l.verify candidate
      if verdict.parsed then .ok (.of candidate verdict) else .error .broken

/-- Mends a draft in at most so many passes, and says why it is mended no further. -/
def mend (l : Linter) : Nat → Draft → Draft × Halt
  | 0, d => (d, if d.fixes.isEmpty then .clean else .spent)
  | passes + 1, d =>
    match l.pass d with
    | .ok next => l.mend passes next
    | .error halt => (d, halt)

/-- Mends a text, given what one run of the rules says of it. -/
def mendText (l : Linter) (data : Bytes) (verdict : Verdict) : Draft × Halt :=
  let d := Draft.of data verdict
  if verdict.parsed then l.mend passLimit d else (d, .unparsed)

/-- The messages for a text and its mended form. -/
def lint (l : Linter) (source : String) : Report :=
  let data := encodeString source
  let verdict := l.verify data
  ⟨verdict.messages, decodeString (l.mendText data verdict).1.data⟩

/-- The names of the rules that are on. -/
def activeRules (l : Linter) : List String := l.rules.map (·.check.name)

end Linter

end Diagnosis.Lint
