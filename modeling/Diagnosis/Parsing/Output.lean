import Diagnosis.Parsing.Subtree
import Diagnosis.Syntax.Tree

/-!
# From subtrees to trees

A tree shows the visible subtrees only. The children of a hidden one take its place, and the role
that a production gives to it goes to each of them.
-/

namespace Diagnosis.Parsing

open Diagnosis.Grammar Diagnosis.Automaton Diagnosis.Syntax

namespace Subtree

/-- The face of a subtree, which may have another name where it stands. -/
def faceAs (t : Table) (otherName : Option Alias) (s : Subtree) : Face :=
  match otherName with
  | some a => .ofAlias a
  | none => { s.kind.face t with isVisible := s.isVisible }

/-- The shape of a subtree; text that fits no construct has none. -/
def shapeIn (t : Table) (s : Subtree) : Shape :=
  if s.kind.isFaulty then {} else t.shapes.getD s.shape {}

/-- The role of a child: its own, else that of its hidden parent. -/
def roleOf (shape : Shape) (inherited : Option String) (step : Nat) (s : Subtree) : Option String :=
  if s.isExtra then none else (shape.fields.getD step none).orElse fun _ => inherited

/-- The name of a child, if it has another one where it stands. -/
def aliasOf (shape : Shape) (step : Nat) (s : Subtree) : Option Alias :=
  if s.isExtra then none else shape.aliases.getD step none

mutual

/-- The trees that a subtree becomes where it stands: one if it is visible, else those of its
children. -/
def treesAt (t : Table) (otherName : Option Alias) (role : Option String) : Subtree → List Tree
  | s@⟨_, _, start, stop, children, _, _, _, isMissing, _, _, _, _, _⟩ =>
    let face := faceAs t otherName s
    let shape := shapeIn t s
    if face.isVisible then
      [{ kind := face.name, start, stop, field := role, named := face.isNamed
         missing := isMissing, children := treesOf t shape none 0 children }]
    else treesOf t shape role 0 children

/-- The trees that the children of a subtree become. `step` counts those that are no extras. -/
def treesOf (t : Table) (shape : Shape) (inherited : Option String) : Nat → List Subtree → List Tree
  | _, [] => []
  | step, s :: rest =>
    treesAt t (aliasOf shape step s) (roleOf shape inherited step s) s
      ++ treesOf t shape inherited (if s.isExtra then step else step + 1) rest

end

/-- The tree that a subtree for a whole text becomes. -/
def toTree (t : Table) (s : Subtree) : Tree :=
  let face := s.kind.face t
  { kind := face.name, start := s.start, stop := s.stop, named := face.isNamed
    missing := s.isMissing, children := treesOf t (shapeIn t s) none 0 s.children }

end Subtree

end Diagnosis.Parsing
