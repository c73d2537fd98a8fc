import Diagnosis.Lint.Analysis
import Diagnosis.Lint.Message

/-!
# What a rule looks at

A `Subject` is a text, the sites of its tree in document order, and the analysis of its names. A
rule is a function from a subject to findings; the findings come in the order in which the rule
makes them.
-/

namespace Diagnosis.Lint

open Diagnosis.Text Diagnosis.Syntax

/-- A parsed text as the rules see it. -/
structure Subject where
  /-- The text. -/
  source : Source
  /-- The nodes of the tree, in document order. -/
  sites : List Site
  /-- The declarations and references of the tree. -/
  names : Analysis

/-- The subject of a text and its tree. -/
def Subject.of (source : Source) (tree : Tree) : Subject :=
  let sites := Site.walk tree
  { source, sites, names := .of source sites }

/-- A finding that covers a node. -/
def Subject.findingAt (subject : Subject) (message : String) (t : Tree) : Finding :=
  { message
    start := subject.source.place (subject.source.startPoint t)
    stop := some (subject.source.place (subject.source.stopPoint t)) }

/-- Statements that end with a semicolon, written or not. -/
def semicolonKinds : List String :=
  ["expression_statement", "lexical_declaration", "variable_declaration", "return_statement",
    "throw_statement", "break_statement", "continue_statement", "do_statement",
    "debugger_statement", "import_statement", "export_statement", "field_definition"]

end Diagnosis.Lint
