import Diagnosis.Lint.Subject

/-!
# Semicolons

The rule `semi` wants every statement to end with a semicolon, or none to.
-/

namespace Diagnosis.Lint

open Diagnosis.Text Diagnosis.Syntax

/-- Whether something is wanted at every place or at none. -/
inductive Presence where
  /-- At every place. -/
  | always
  /-- At no place. -/
  | never
  deriving Repr, DecidableEq

/-- The word for a presence in settings. -/
def Presence.word : Presence → String
  | always => "always"
  | never => "never"

namespace Semi

/-- Bytes that would continue the previous statement if no semicolon separated them. -/
def continuations : List UInt8 := encodeString "[(/+-`"

/-- Exported values that end without a semicolon. -/
def blockValueKinds : List String := ["function_expression", "function", "class"]

/-- Whether an export ends with a block of its own. -/
def isBlockExport (s : Site) : Bool :=
  s.kind == "export_statement"
    && ((s.childAt? "declaration").isSome
      || ((s.childAt? "value").map fun v => blockValueKinds.contains v.kind).getD false)

/-- Whether the rule looks at a site: a statement with parts, not in the head of a loop. -/
def concerns (s : Site) : Bool :=
  semicolonKinds.contains s.kind && !s.node.children.isEmpty
    && !s.isBelow "for_statement" && !s.isBelow "for_in_statement" && !isBlockExport s

/-- The semicolon of a class field, which stands after the field; without one the field itself. -/
def fieldEnd (s : Site) : Tree :=
  match (s.nextSiblings.dropWhile (·.kind == "comment")).head? with
  | some next => if next.kind == ";" then next.node else s.node
  | none => s.node

/-- The node at which a statement ends: its last part that is no comment. -/
def lastPart? (s : Site) : Option Tree :=
  (s.node.children.reverse.find? (·.kind != "comment")).map fun last =>
    if s.kind == "field_definition" && last.kind != ";" then fieldEnd s else last

/-- Whether the text after an offset would continue a statement that ends there. -/
def isContinued (data : Bytes) (offset : Nat) : Bool :=
  match (data.drop offset).dropWhile isBlankByte with
  | b :: _ => continuations.contains b
  | [] => false

/-- The finding for a statement that ends at `last` without a semicolon. -/
def missing (src : Source) (last : Tree) : Finding :=
  let stop := src.stopPoint last
  { message := "Missing semicolon."
    start := src.place stop
    stop := if src.data.length ≤ last.stop then none
      else some (src.place ⟨stop.row, stop.column + 1⟩)
    fix := some ⟨last.stop, last.stop, encodeString ";"⟩ }

/-- The finding for a semicolon that is not wanted. -/
def extra (subject : Subject) (last : Tree) : Finding :=
  { subject.findingAt "Extra semicolon." last with fix := some ⟨last.start, last.stop, []⟩ }

/-- What the rule says of a statement that ends at the given node. -/
def atEnd (subject : Subject) (style : Presence) (last : Tree) : Option Finding :=
  match style with
  | .always => if last.kind != ";" then some (missing subject.source last) else none
  | .never =>
    if last.kind == ";" && !isContinued subject.source.data last.stop then
      some (extra subject last)
    else none

/-- The findings of the rule. -/
def check (style : Presence) (subject : Subject) : List Finding :=
  (subject.sites.filter concerns).filterMap fun s =>
    (lastPart? s).bind (atEnd subject style)

end Semi

end Diagnosis.Lint
