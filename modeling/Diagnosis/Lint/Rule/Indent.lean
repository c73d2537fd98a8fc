import Diagnosis.Lint.Subject

/-!
# Indentation

The rule `indent` wants every construct that begins a line to stand at its depth. The expected
indentation of a row is a number of indentation characters, found from the row where the parent
begins: from what was expected there, or, where nothing was expected, from what stands there. So one
wrong row does not make the rows inside it wrong.

Only the first construct of a row counts.
-/

namespace Diagnosis.Lint

open Diagnosis.Text Diagnosis.Syntax

/-- The character that indents. -/
inductive IndentUnit where
  /-- Spaces. -/
  | space
  /-- Tabs. -/
  | tab
  deriving Repr, DecidableEq

/-- The byte that indents. -/
def IndentUnit.byte : IndentUnit → UInt8
  | space => 32
  | tab => 9

/-- The name of a unit in messages. -/
def IndentUnit.name : IndentUnit → String
  | space => "space"
  | tab => "tab"

/-- The options of the rule. -/
structure IndentOptions where
  /-- The character that indents. -/
  unit : IndentUnit
  /-- How many of them make a level. -/
  width : Nat
  /-- How many levels the cases of a switch stand deeper than the switch. -/
  switchCase : Nat
  deriving Repr, DecidableEq

namespace Indent

/-! ## The wording -/

/-- A count of things, with the plural where it is due. -/
def countOf (n : Nat) (thing : String) : String := s!"{n} {thing}" ++ if n = 1 then "" else "s"

/-- What was found instead. The unit is left out when only characters of the expected unit are
there. -/
def describeFound (unit : IndentUnit) (actual : Bytes) : String :=
  let spaces := actual.count IndentUnit.space.byte
  let tabs := actual.count IndentUnit.tab.byte
  if spaces ≠ 0 ∧ tabs ≠ 0 then countOf spaces "space" ++ " and " ++ countOf tabs "tab"
  else if spaces ≠ 0 then if unit = .space then toString spaces else countOf spaces "space"
  else if tabs ≠ 0 then if unit = .tab then toString tabs else countOf tabs "tab"
  else "0"

/-- The message for a wrong indentation. -/
def describe (expected : Nat) (unit : IndentUnit) (actual : Bytes) : String :=
  let wanted := countOf expected unit.name
  let found := describeFound unit actual
  s!"Expected indentation of {wanted} but found {found}."

/-! ## The expected indentation -/

/-- Constructs that are looked at where they begin a line. -/
def anchorKinds : List String :=
  semicolonKinds ++
    ["if_statement", "for_statement", "for_in_statement", "while_statement", "try_statement",
      "switch_statement", "labeled_statement", "statement_block", "function_declaration",
      "generator_function_declaration", "class_declaration", "method_definition",
      "field_definition", "switch_case", "switch_default", "else_clause", "catch_clause",
      "finally_clause"]

/-- Constructs in braces whose parts stand one level deeper. -/
def blockKinds : List String := ["statement_block", "class_body", "switch_body"]

/-- Parts of a statement that begin with a word of their own. -/
def clauseKinds : List String := ["else_clause", "catch_clause", "finally_clause"]

/-- The role of the statement that another statement governs. -/
def bodyRole? (kind : String) : Option String :=
  if kind == "if_statement" then some "consequence"
  else if ["for_statement", "for_in_statement", "while_statement", "do_statement"].contains kind
  then some "body"
  else none

/-- What is expected of the rows looked at so far. -/
abbrev Expected := List (Nat × Nat)

/-- The indentation to count from at a row. -/
def level (src : Source) (expected : Expected) (row : Nat) : Nat :=
  (expected.lookup row).getD (src.indentation row).length

/-- Whether a site is a statement that another statement governs, without braces. -/
def isBracelessBody (s parent : Site) : Bool :=
  (parent.kind == "else_clause" || ((bodyRole? parent.kind).map s.hasRole).getD false)
    && s.kind != "statement_block"

/-- The expected indentation of a site; none where the rule expects nothing. -/
def expectedAt (src : Source) (o : IndentOptions) (expected : Expected) (s : Site) : Option Nat :=
  match s.parent? with
  | none => none
  | some parent =>
    let outer := level src expected (src.startPoint parent.node).row
    if parent.kind == "program" then some 0
    else if clauseKinds.contains s.kind then some outer
    else if blockKinds.contains parent.kind then
      if s.kind == "\x7d" then some outer
      else some (outer + (if parent.kind == "switch_body" then o.switchCase else 1) * o.width)
    else if parent.kind == "switch_case" || parent.kind == "switch_default" then
      some (outer + o.width)
    else if isBracelessBody s parent then some (outer + o.width)
    else none

/-- Whether the rule looks at a site. -/
def concerns (s : Site) : Bool :=
  anchorKinds.contains s.kind
    || (s.kind == "\x7d" && ((s.parentKind?).map blockKinds.contains).getD false)

/-- The finding for a row whose indentation is not the expected one. -/
def finding? (src : Source) (o : IndentOptions) (row expected : Nat) : Option Finding :=
  let actual := src.indentation row
  let wanted : Bytes := List.replicate expected o.unit.byte
  if actual = wanted then none
  else
    let start := src.rowStart row
    some
      { message := describe expected o.unit actual
        start := src.place ⟨row, 0⟩
        stop := some (src.place ⟨row, actual.length⟩)
        fix := some ⟨start, (start + actual.length : Nat), wanted⟩ }

/-- The findings at the given sites, after what the sites before them settled. -/
def checkFrom (src : Source) (o : IndentOptions) (expected : Expected) : List Site → List Finding
  | [] => []
  | s :: ss =>
    let start := src.startPoint s.node
    if !concerns s || (expected.lookup start.row).isSome || !src.startsLine start then
      checkFrom src o expected ss
    else match expectedAt src o expected s with
      | none => checkFrom src o expected ss
      | some n =>
        (finding? src o start.row n).toList ++ checkFrom src o ((start.row, n) :: expected) ss

/-- The findings of the rule. -/
def check (o : IndentOptions) (subject : Subject) : List Finding :=
  checkFrom subject.source o [] subject.sites

end Indent

end Diagnosis.Lint
