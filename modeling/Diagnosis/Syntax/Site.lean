import Diagnosis.Syntax.Tree

/-!
# Places in a tree

A `Site` is a node together with the way to it: it is the root, or it is a child of another site.
So a site knows its parent, its ancestors and its siblings, which a bare node does not. Two sites of
one tree are the same place exactly when they have the same `address`.

* `walk` lists all sites in document order.
* `enclosing` and `hasAncestor` look upward; `childAt?` and `nextSiblings` look around.
-/

namespace Diagnosis.Syntax

/-- A node of a tree, with the way to it. -/
inductive Site where
  /-- The root. -/
  | root (node : Tree)
  /-- The child of a site with the given index. -/
  | child (parent : Site) (index : Nat) (node : Tree)
  deriving Inhabited, Repr

/-- The indices along the way from a node up to the root. -/
abbrev Address := List Nat

namespace Site

/-- The node at a site. -/
def node : Site → Tree
  | root t => t
  | child _ _ t => t

/-- The site of the parent. -/
def parent? : Site → Option Site
  | root _ => none
  | child p _ _ => some p

/-- The way from the site up to the root. -/
def address : Site → Address
  | root _ => []
  | child p i _ => i :: p.address

/-- The kind of the node. -/
def kind (s : Site) : String := s.node.kind

/-- The kind of the parent; `none` at the root. -/
def parentKind? (s : Site) : Option String := s.parent?.map (·.kind)

/-- Whether the parent is of the given kind. -/
def isBelow (s : Site) (kind : String) : Bool := s.parentKind? == some kind

/-- The sites of the given children, the first of which has the index `i`. -/
def childrenFrom (s : Site) : Nat → List Tree → List Site
  | _, [] => []
  | i, t :: ts => child s i t :: childrenFrom s (i + 1) ts

/-- The sites of the children. -/
def children (s : Site) : List Site := s.childrenFrom 0 s.node.children

/-- The sites of the children that are constructs of the language. -/
def namedChildren (s : Site) : List Site := s.children.filter (·.node.named)

/-- The site of the first child that has the given role. -/
def childAt? (s : Site) (field : String) : Option Site :=
  s.children.find? (·.node.field == some field)

/-- The ancestors, the nearest first. -/
def ancestors : Site → List Site
  | root _ => []
  | child p _ _ => p :: p.ancestors

/-- Whether an ancestor is of the given kind. -/
def hasAncestor (s : Site) (kind : String) : Bool := s.ancestors.any (·.kind == kind)

/-- The nearest ancestor of one of the given kinds, else the root; the root encloses itself. -/
def enclosing (kinds : List String) : Site → Site
  | root t => root t
  | child p _ _ => if kinds.contains p.kind then p else enclosing kinds p

/-- The siblings that follow, the nearest first. -/
def nextSiblings : Site → List Site
  | root _ => []
  | child p i _ => p.children.drop (i + 1)

/-- Whether two sites are the same place. -/
def same (a b : Site) : Bool := a.address == b.address

/-- Whether the site is the child of its parent that has the given role. -/
def hasRole (s : Site) (field : String) : Bool :=
  match s.parent? with
  | none => false
  | some p => ((p.childAt? field).map (same s)).getD false

/-! ## Document order -/

/-- The number of nodes at and below several sites. -/
def total : List Site → Nat
  | [] => 0
  | s :: ss => s.node.size + total ss

/-- The nodes of two lists of sites add up. -/
theorem total_append (ss ts : List Site) : total (ss ++ ts) = total ss + total ts := by
  induction ss with
  | nil => simp [total]
  | cons s ss ih => simp [total, ih]; omega

/-- The sites of children have the nodes of the children. -/
theorem total_childrenFrom (s : Site) (i : Nat) (ts : List Tree) :
    total (s.childrenFrom i ts) = Tree.sizeList ts := by
  induction ts generalizing i with
  | nil => simp [childrenFrom, total, Tree.sizeList]
  | cons t ts ih => simp [childrenFrom, total, Tree.sizeList, ih, node]

/-- The children of a site have all of its nodes but one. -/
theorem total_children (s : Site) : total s.children + 1 = s.node.size := by
  rw [children, total_childrenFrom, Tree.size_eq]

/-- Lists the sites on a stack and all sites below them. The children of a site go on the stack when
the site is taken off, the first child on top. -/
def walkFrom (stack : List Site) : List Site :=
  match stack with
  | [] => []
  | s :: rest => s :: walkFrom (s.children ++ rest)
termination_by total stack
decreasing_by
  have := total_children s
  simp only [total_append, total]
  omega

/-- All sites of a tree, in document order. -/
def walk (t : Tree) : List Site := walkFrom [root t]

end Site

end Diagnosis.Syntax
