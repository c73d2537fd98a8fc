import Diagnosis.Lint.Binding
import Diagnosis.Syntax.Source

/-!
# Scopes

Which identifiers of a text declare names, and where the names hold.

* A `Declaration` is an identifier that declares its name in a scope. The scope is a site: a
  function, a block, a clause or the root.
* A `Binding` is a name in a scope. All declarations of one name in one scope make one binding.
-/

namespace Diagnosis.Lint

open Diagnosis.Syntax

/-! ## Kinds of nodes -/

/-- Functions: the scopes of parameters and of `var`. -/
def functionKinds : List String :=
  ["function_declaration", "generator_function_declaration", "function_expression", "function",
    "generator_function", "arrow_function", "method_definition"]

/-- Blocks: with functions, the scopes of every other declaration. -/
def blockKinds : List String :=
  ["statement_block", "for_statement", "for_in_statement", "catch_clause", "switch_body"]

/-- Functions and blocks. -/
def lexicalKinds : List String := functionKinds ++ blockKinds

/-- Expressions that may name themselves. -/
def selfNamingKinds : List String :=
  ["function_expression", "function", "generator_function", "class"]

/-- Declarations whose name is a field. -/
def namedDeclarationKinds : List String :=
  ["function_declaration", "generator_function_declaration", "class_declaration"]

/-! ## Declarations -/

/-- A name in a scope. -/
structure Binding where
  /-- The address of the scope. -/
  scope : Address
  /-- The name. -/
  name : String
  deriving Repr, DecidableEq

/-- An identifier that declares its name. -/
structure Declaration where
  /-- Where the name holds. -/
  scope : Site
  /-- The identifier. -/
  ident : Site
  /-- The name. -/
  name : String
  /-- Whether an expression declares it as its own name. -/
  isSelf : Bool := false
  /-- Whether it comes with a value. -/
  hasValue : Bool := false
  /-- Whether the declaration is exported. -/
  exported : Bool := false
  deriving Repr

/-- What it declares. -/
def Declaration.binding (d : Declaration) : Binding := ⟨d.scope.address, d.name⟩

/-- The declaration of an identifier in a scope. -/
def Declaration.of (src : Source) (scope ident : Site) : Declaration :=
  { scope, ident, name := src.text ident.node }

/-- The declarations of a `var`, `let` or `const` statement. -/
def variableDeclarations (src : Source) (s : Site) : List Declaration :=
  let kinds := if s.kind == "variable_declaration" then functionKinds else lexicalKinds
  let scope := s.enclosing kinds
  (s.namedChildren.filter (·.kind == "variable_declarator")).flatMap fun declarator =>
    (patternIdentifiers? (declarator.childAt? "name")).map fun ident =>
      { Declaration.of src scope ident with
        hasValue := (declarator.childAt? "value").isSome
        exported := s.isBelow "export_statement" }

/-- The declarations in the head of a `for`-`in` or `for`-`of` loop. -/
def loopDeclarations (src : Source) (s : Site) : List Declaration :=
  match s.childAt? "kind" with
  | none => []
  | some word =>
    let scope := if word.kind == "var" then s.enclosing functionKinds else s
    (patternIdentifiers? (s.childAt? "left")).map fun ident =>
      { Declaration.of src scope ident with hasValue := true }

/-- The site of the root. -/
def rootOf : Site → Site
  | .root t => .root t
  | .child p _ _ => rootOf p

/-- The declarations that a construct makes, its parameters apart. -/
def ownDeclarations (src : Source) (s : Site) : List Declaration :=
  if s.kind == "variable_declaration" || s.kind == "lexical_declaration" then
    variableDeclarations src s
  else if namedDeclarationKinds.contains s.kind then
    (s.childAt? "name").toList.map fun name =>
      { Declaration.of src (s.enclosing lexicalKinds) name with
        exported := s.isBelow "export_statement" }
  else if selfNamingKinds.contains s.kind then
    (s.childAt? "name").toList.map fun name => { Declaration.of src s name with isSelf := true }
  else if s.kind == "catch_clause" then
    (patternIdentifiers? (s.childAt? "parameter")).map (Declaration.of src s)
  else if s.kind == "for_in_statement" then loopDeclarations src s
  else if s.kind == "import_statement" then
    (importIdentifiers s).map (Declaration.of src (rootOf s))
  else []

/-- The declarations of the parameters of a function. -/
def parameterDeclarations (src : Source) (s : Site) : List Declaration :=
  if functionKinds.contains s.kind then
    (patternIdentifiers? (s.childAt? "parameters" <|> s.childAt? "parameter")).map
      (Declaration.of src s)
  else []

/-- All declarations that a construct makes. -/
def declarationsAt (src : Source) (s : Site) : List Declaration :=
  ownDeclarations src s ++ parameterDeclarations src s

end Diagnosis.Lint
