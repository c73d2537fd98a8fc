import Diagnosis.Lint.Globals
import Diagnosis.Lint.Table

/-!
# The analysis of names

What the names of a text refer to. An `Analysis` is made in two passes over the sites of a tree: the
first takes in all declarations, the second (`refer`) takes in the uses one by one. A use either
refers to an entry of the table, which then counts as read or as written, or to nothing; in the
second case it is undefined unless the name is global or the operand of `typeof`.
-/

namespace Diagnosis.Lint

open Diagnosis.Syntax

/-! ## References -/

/-- Nodes whose identifiers are names of markup, not of variables. -/
def markupNameKinds : List String :=
  ["jsx_opening_element", "jsx_closing_element", "jsx_self_closing_element", "jsx_attribute",
    "jsx_namespace_name", "nested_identifier"]

/-- Kinds of nodes that may use a variable. -/
def referenceKinds : List String := ["identifier", "shorthand_property_identifier"]

/-- Whether an identifier that declares nothing uses a variable. -/
def usesVariable (s : Site) : Bool :=
  match s.parent? with
  | none => false
  | some p =>
    !markupNameKinds.contains p.kind && !(p.kind == "export_specifier" && s.hasRole "alias")
      && !s.hasAncestor "import_statement"

/-- Whether a site is a reference: an identifier that uses a variable. The addresses are those of
the identifiers that declare something. -/
def isReference (declaring : List Address) (s : Site) : Bool :=
  referenceKinds.contains s.kind && !declaring.contains s.address && usesVariable s

/-- Whether an identifier is the operand of `typeof`, which may be undeclared. -/
def isTypeofOperand (s : Site) : Bool :=
  match s.parent? with
  | none => false
  | some p =>
    p.kind == "unary_expression"
      && ((p.childAt? "operator").map (·.kind == "typeof")).getD false

/-- Whether an identifier only gets a value: it is the target of an assignment, or the target of an
update whose result nobody takes. -/
def isWriteOnly (s : Site) : Bool :=
  match s.parent? with
  | none => false
  | some p =>
    if p.kind == "assignment_expression" then s.hasRole "left"
    else if !p.isBelow "expression_statement" then false
    else if p.kind == "augmented_assignment_expression" then s.hasRole "left"
    else if p.kind == "update_expression" then s.hasRole "argument"
    else false

/-- Takes in a use of a binding. -/
def Entry.use (ident : Site) (e : Entry) : Entry :=
  if isWriteOnly ident then e.write ident else e.markRead

/-! ## The analysis -/

/-- What the names of a tree refer to. -/
structure Analysis where
  /-- What is known of each binding. -/
  table : Table
  /-- The bindings of the parameters of each function, function by function. -/
  parameters : List (List Binding)
  /-- The uses of names that nobody declares, in the order of the text. -/
  undefined : List Site := []
  deriving Repr

namespace Analysis

/-- Whether a name that nobody declares may be used at a site. -/
def mayBeUndeclared (src : Source) (s : Site) : Bool :=
  isGlobal (src.text s.node) || isTypeofOperand s

/-- Takes in a reference. -/
def refer (src : Source) (a : Analysis) (s : Site) : Analysis :=
  match a.table.resolve s (src.text s.node) with
  | some e => { a with table := a.table.update e.binding (·.use s) }
  | none =>
    if mayBeUndeclared src s then a else { a with undefined := a.undefined ++ [s] }

/-- The analysis of the sites of a tree after the first pass. -/
def declared (src : Source) (sites : List Site) : Analysis :=
  { table := (sites.flatMap (declarationsAt src)).foldl Table.declare []
    parameters := (sites.filter (functionKinds.contains ·.kind)).map fun s =>
      (parameterDeclarations src s).map (·.binding) }

/-- The addresses of the identifiers that declare something. -/
def declaring (src : Source) (sites : List Site) : List Address :=
  (sites.flatMap (declarationsAt src)).map (·.ident.address)

/-- The references of a tree, in the order of the text. -/
def references (src : Source) (sites : List Site) : List Site :=
  sites.filter (isReference (declaring src sites))

/-- Analyses the sites of a tree. -/
def of (src : Source) (sites : List Site) : Analysis :=
  (references src sites).foldl (refer src) (declared src sites)

variable (a : Analysis)

/-- The entries, scope by scope. Scopes come in the order of their first declarations, and so do
the names of a scope. -/
def entries : List Entry :=
  ((a.table.map (·.binding.scope)).eraseDups).flatMap fun scope =>
    a.table.filter (·.binding.scope == scope)

/-- Whether the value of a binding is used. -/
def isRead (b : Binding) : Bool := ((a.table.find? b).map (·.read)).getD false

/-- Whether a name at a site refers to a declaration of the text. -/
def isDeclaredAt (s : Site) (name : String) : Bool := (a.table.resolve s name).isSome

end Analysis

end Diagnosis.Lint
