import Diagnosis.Syntax.Site

/-!
# Binding patterns

Which identifiers a pattern declares. A pattern nests objects, arrays, defaults and rest elements;
the names it binds are its identifiers, but not those of default values, computed keys and property
names. `importIdentifiers` does the same for the clauses of an import.
-/

namespace Diagnosis.Lint

open Diagnosis.Syntax

namespace Pattern

/-- Kinds of nodes that are bound names. -/
def nameKinds : List String := ["identifier", "shorthand_property_identifier_pattern"]

/-- Kinds of patterns with a default value on their right. -/
def defaultKinds : List String := ["assignment_pattern", "object_assignment_pattern"]

/-- Kinds of patterns all of whose constructs are patterns. -/
def groupKinds : List String :=
  ["object_pattern", "array_pattern", "formal_parameters", "rest_pattern"]

end Pattern

open Pattern

mutual

/-- The identifiers that the pattern `t` declares, in the order of the text; `s` is its site. -/
def patternIn (s : Site) : Tree → List Site
  | ⟨kind, _, _, _, _, _, _, children⟩ =>
    if nameKinds.contains kind then [s]
    else if defaultKinds.contains kind then patternRole s "left" 0 children
    else if kind == "pair_pattern" then patternRole s "value" 0 children
    else if groupKinds.contains kind then patternGroup s 0 children
    else []

/-- The identifiers of the first child that has the given role; `i` is the index of the first of
the children. -/
def patternRole (s : Site) (field : String) (i : Nat) : List Tree → List Site
  | [] => []
  | t :: ts =>
    if t.field == some field then patternIn (.child s i t) t else patternRole s field (i + 1) ts

/-- The identifiers of all children that are constructs. -/
def patternGroup (s : Site) (i : Nat) : List Tree → List Site
  | [] => []
  | t :: ts =>
    (if t.named then patternIn (.child s i t) t else []) ++ patternGroup s (i + 1) ts

end

/-- The identifiers that a binding pattern declares, in the order of the text. -/
def patternIdentifiers (s : Site) : List Site := patternIn s s.node

/-- The identifiers that an optional pattern declares. -/
def patternIdentifiers? (s : Option Site) : List Site := (s.map patternIdentifiers).getD []

/-- The local name of one item of an import list. -/
def specifierName? (s : Site) : Option Site :=
  if s.kind == "import_specifier" then
    match s.childAt? "alias" <|> s.childAt? "name" with
    | some name => if name.kind == "identifier" then some name else none
    | none => none
  else none

/-- The local names that one part of an import clause binds. -/
def importPartIdentifiers (part : Site) : List Site :=
  if part.kind == "identifier" then [part]
  else if part.kind == "namespace_import" then
    part.namedChildren.filter (·.kind == "identifier")
  else if part.kind == "named_imports" then part.namedChildren.filterMap specifierName?
  else []

/-- The local names that an import statement binds. -/
def importIdentifiers (s : Site) : List Site :=
  (s.namedChildren.filter (·.kind == "import_clause")).flatMap fun clause =>
    clause.namedChildren.flatMap importPartIdentifiers

end Diagnosis.Lint
