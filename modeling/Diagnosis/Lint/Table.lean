import Diagnosis.Lint.Scope

/-!
# The table of names

What is known of the bindings of a text. A `Table` has one `Entry` for each binding, in the order of
the first declarations. It is filled in two passes: `declare` takes in the declarations, and once
all of them are in, `refer` takes in the uses.

A name refers to the entry of the nearest enclosing scope that declares it (`resolve`). Since no use
is looked at before the last declaration is in, it makes no difference where in its scope a
declaration stands.
-/

namespace Diagnosis.Lint

open Diagnosis.Syntax

/-- What is known of a binding. -/
structure Entry where
  /-- The binding. -/
  binding : Binding
  /-- The identifiers that declare it, in the order in which their constructs begin. -/
  idents : List Site
  /-- Whether it was first declared as the own name of an expression. -/
  isSelf : Bool
  /-- Whether it gets a value. -/
  assigned : Bool
  /-- Whether it is exported. -/
  exported : Bool
  /-- Whether its value is used. -/
  read : Bool := false
  /-- The last place that gives it a value without using it. -/
  lastWrite? : Option Site := none
  deriving Repr

namespace Entry

/-- The entry that a first declaration makes. -/
def of (d : Declaration) : Entry :=
  { binding := d.binding, idents := [d.ident], isSelf := d.isSelf, assigned := d.hasValue,
    exported := d.exported }

/-- Takes in one more declaration. -/
def redeclare (d : Declaration) (e : Entry) : Entry :=
  { e with
    idents := e.idents ++ [d.ident]
    assigned := e.assigned || d.hasValue
    exported := e.exported || d.exported }

/-- Takes in a place that gives the binding a value without using it. -/
def write (ident : Site) (e : Entry) : Entry :=
  { e with assigned := true, lastWrite? := some ident }

/-- Takes in a use. -/
def markRead (e : Entry) : Entry := { e with read := true }

end Entry

/-- The entries of the bindings of a text. -/
abbrev Table := List Entry

namespace Table

/-- The entry of a binding. -/
def find? (t : Table) (b : Binding) : Option Entry := List.find? (·.binding == b) t

/-- Takes in a declaration. -/
def declare : Table → Declaration → Table
  | [], d => [.of d]
  | e :: rest, d =>
    if e.binding == d.binding then e.redeclare d :: rest else e :: declare rest d

/-- Changes the entry of a binding. -/
def update (t : Table) (b : Binding) (f : Entry → Entry) : Table :=
  t.map fun e => if e.binding == b then f e else e

/-- The entry that a name refers to at a site: that of the nearest ancestor that declares it. -/
def resolve (t : Table) (s : Site) (name : String) : Option Entry :=
  s.ancestors.findSome? fun scope => t.find? ⟨scope.address, name⟩

end Table

end Diagnosis.Lint
