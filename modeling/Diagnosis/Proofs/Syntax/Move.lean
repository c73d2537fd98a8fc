import Diagnosis.Proofs.Syntax.Site
import Mathlib.Data.List.Pairwise

/-!
# Trees with moved offsets

When a text is edited, the nodes of its tree begin and end elsewhere. `Tree.moveBy` moves all offsets of
a tree and leaves everything else as it is: the sites of the moved tree are the moved sites
(`walk_moveBy`), with the same kinds, parents and roles.

A tree is nested (`Tree.IsNested`) if every node lies in its parent and behind its elder siblings. What is
listed later in such a tree is below what is listed earlier or begins behind its end (`pairwise_preorder`), so
its nodes are met in the order in which they begin (`pairwise_walk`). What begins inside a node is below it
(`isNode_of_between`).
-/

namespace Diagnosis.Syntax

open Site

/-! ## Moving -/

mutual

/-- The tree with all offsets moved. -/
def Tree.moveBy (move : Nat → Nat) : Tree → Tree
  | ⟨kind, start, stop, field, named, missing, faulty, children⟩ =>
    ⟨kind, move start, move stop, field, named, missing, faulty, Tree.moveAllBy move children⟩

/-- Several trees with all offsets moved. -/
def Tree.moveAllBy (move : Nat → Nat) : List Tree → List Tree
  | [] => []
  | t :: ts => t.moveBy move :: Tree.moveAllBy move ts

end

/-- The site with all offsets moved. -/
def Site.moveBy (move : Nat → Nat) : Site → Site
  | root t => root (t.moveBy move)
  | child p i t => child (p.moveBy move) i (t.moveBy move)

namespace Tree

variable (move : Nat → Nat) (t : Tree)

/-- Moving a list of trees moves each of them. -/
lemma moveAllBy_eq_map (ts : List Tree) : moveAllBy move ts = ts.map (·.moveBy move) := by
  induction ts with
  | nil => rfl
  | cons t ts ih => rw [moveAllBy, ih, List.map_cons]

/-- Moving leaves the kind of a tree as it is. -/
@[simp]
lemma kind_moveBy : (t.moveBy move).kind = t.kind := by
  cases t
  rfl

/-- The start of a tree is moved. -/
@[simp]
lemma start_moveBy : (t.moveBy move).start = move t.start := by
  cases t
  rfl

/-- The stop of a tree is moved. -/
@[simp]
lemma stop_moveBy : (t.moveBy move).stop = move t.stop := by
  cases t
  rfl

/-- Moving leaves the field as it is. -/
@[simp]
lemma field_moveBy : (t.moveBy move).field = t.field := by
  cases t
  rfl

/-- The children of a tree are moved. -/
@[simp]
lemma children_moveBy : (t.moveBy move).children = t.children.map (·.moveBy move) := by
  cases t
  exact moveAllBy_eq_map move _

end Tree

namespace Site

variable (move : Nat → Nat) (s : Site)

/-- The node of a moved site is the moved node. -/
@[simp]
lemma node_moveBy : (s.moveBy move).node = s.node.moveBy move := by
  cases s <;> rfl

/-- Moving leaves the kind of a node as it is. -/
@[simp]
lemma kind_moveBy : (s.moveBy move).kind = s.kind := by
  rw [kind, node_moveBy, Tree.kind_moveBy, kind]

/-- The parent of a moved node is the moved parent. -/
@[simp]
lemma parent?_moveBy : (s.moveBy move).parent? = s.parent?.map (·.moveBy move) := by
  cases s <;> rfl

/-- Moving leaves the kind of the parent as it is. -/
@[simp]
lemma parentKind?_moveBy : (s.moveBy move).parentKind? = s.parentKind? := by
  rw [parentKind?, parent?_moveBy, Option.map_map, parentKind?]
  congr 1
  funext p
  exact kind_moveBy move p

/-- Moving leaves the address as it is. -/
@[simp]
lemma address_moveBy : (s.moveBy move).address = s.address := by
  induction s with
  | root t => rfl
  | child p i t ih => rw [moveBy, address, ih, address]

/-- The children from an index on are moved. -/
lemma childrenFrom_moveBy (i : Nat) (ts : List Tree) :
    (s.moveBy move).childrenFrom i (ts.map (·.moveBy move)) =
      (s.childrenFrom i ts).map (·.moveBy move) := by
  induction ts generalizing i with
  | nil => rfl
  | cons t ts ih =>
    rw [List.map_cons, childrenFrom, ih, childrenFrom, List.map_cons]
    rfl

/-- The children of a moved node are the moved children. -/
@[simp]
lemma children_moveBy : (s.moveBy move).children = s.children.map (·.moveBy move) := by
  rw [children, node_moveBy, Tree.children_moveBy, childrenFrom_moveBy, children]

/-- The child in a role is moved. -/
@[simp]
lemma childAt?_moveBy (field : String) :
    (s.moveBy move).childAt? field = (s.childAt? field).map (·.moveBy move) := by
  rw [childAt?, children_moveBy, List.find?_map, childAt?]
  congr 2
  funext c
  rw [Function.comp_apply, node_moveBy, Tree.field_moveBy]

/-- Moving leaves the role as it is. -/
@[simp]
lemma hasRole_moveBy (field : String) : (s.moveBy move).hasRole field = s.hasRole field := by
  rw [hasRole, parent?_moveBy, hasRole]
  cases s.parent? with
  | none => rfl
  | some p =>
    rw [Option.map_some]
    dsimp only
    rw [childAt?_moveBy, Option.map_map]
    congr 2
    funext c
    rw [Function.comp_apply, same, address_moveBy, address_moveBy, same]

/-- The walk over moved trees is the walk, moved. -/
lemma walkFrom_moveBy (stack : List Site) :
    walkFrom (stack.map (·.moveBy move)) = (walkFrom stack).map (·.moveBy move) := by
  fun_induction walkFrom stack with
  | case1 => rw [List.map_nil, walkFrom]
  | case2 top rest ih =>
    rw [List.map_cons, walkFrom_cons, children_moveBy, ← List.map_append, ih, List.map_cons]

/-- The sites of a moved tree are the moved sites, in the same order. -/
theorem walk_moveBy (t : Tree) : walk (t.moveBy move) = (walk t).map (·.moveBy move) :=
  walkFrom_moveBy move [root t]

end Site

/-! ## Nested trees -/

/-- Whether the nodes of a tree are nested and in order: none begins after it ends, and each lies in its
parent, behind its elder siblings. -/
structure Tree.IsNested (t : Tree) : Prop where
  isOrdered : t.IsOrdered
  within : ∀ u, t.IsNode u → ∀ c ∈ u.children, u.start ≤ c.start ∧ c.stop ≤ u.stop
  pairwise : ∀ u, t.IsNode u → u.children.Pairwise (·.stop ≤ ·.start)

section nested

variable {t : Tree}

/-- What is below a node of a nested tree is a nested tree. -/
lemma Tree.IsNested.of_isNode {u : Tree} (h : t.IsNested) (hu : t.IsNode u) : u.IsNested :=
  ⟨fun v hv => h.isOrdered v (hu.trans hv), fun v hv => h.within v (hu.trans hv),
    fun v hv => h.pairwise v (hu.trans hv)⟩

/-- A node of a nested tree lies in the tree. -/
lemma Tree.IsNested.within_of_isNode {u : Tree} (h : t.IsNested) (hu : t.IsNode u) :
    t.start ≤ u.start ∧ u.stop ≤ t.stop := by
  induction hu with
  | self => exact ⟨Nat.le_refl _, Nat.le_refl _⟩
  | child hv hc ih =>
    obtain ⟨hstart, hstop⟩ := h.within _ hv _ hc
    omega

/-- Of two nodes of a nested tree, one is below the other, or one ends before the other begins. -/
lemma Tree.IsNested.below_or_apart {u v : Tree} (h : t.IsNested) (hu : t.IsNode u) (hv : t.IsNode v) :
    u.IsNode v ∨ v.IsNode u ∨ u.stop ≤ v.start ∨ v.stop ≤ u.start := by
  induction hv with
  | self => exact .inr (.inl hu)
  | @child p v hp hc ih =>
    obtain ⟨hstart, hstop⟩ := h.within p hp v hc
    obtain hpu | hup | hlater | hearlier := ih
    · exact .inl (hpu.child hc)
    · obtain rfl | ⟨d, hd, hdu⟩ := hup.eq_or_below
      · exact .inl (Tree.IsNode.self.child hc)
      · obtain ⟨hdstart, hdstop⟩ := (h.of_isNode (hp.child hd)).within_of_isNode hdu
        obtain ⟨i, hi, rfl⟩ := List.getElem_of_mem hc
        obtain ⟨j, hj, rfl⟩ := List.getElem_of_mem hd
        have hsiblings := List.pairwise_iff_getElem.mp (h.pairwise p hp)
        rcases Nat.lt_trichotomy i j with hlt | rfl | hlt
        · have := hsiblings i j hi hj hlt
          omega
        · exact .inr (.inl hdu)
        · have := hsiblings j i hj hi hlt
          omega
    · omega
    · omega

/-- What begins inside a node of a nested tree is below it. -/
theorem Tree.IsNested.isNode_of_between {u v : Tree} (h : t.IsNested) (hu : t.IsNode u)
    (hv : t.IsNode v) (hstart : u.start < v.start) (hstop : v.start < u.stop) : u.IsNode v := by
  obtain hbelow | habove | hlater | hearlier := h.below_or_apart hu hv
  · exact hbelow
  · have := (h.of_isNode hv).within_of_isNode habove
    omega
  · omega
  · have := h.isOrdered v hv
    omega

/-- Every node is found at a site. -/
lemma Tree.IsNode.exists_isSite {u : Tree} (h : t.IsNode u) : ∃ s, IsSite t s ∧ s.node = u := by
  induction h with
  | self => exact ⟨.root t, .root, rfl⟩
  | child _ hc ih =>
    obtain ⟨s, hs, rfl⟩ := ih
    obtain ⟨i, hi⟩ := List.getElem?_of_mem hc
    exact ⟨.child s i _, hs.child hi, rfl⟩

/-- What holds of all nodes is found out on a walk. -/
lemma Tree.forall_isNode_iff {p : Tree → Prop} :
    (∀ u, t.IsNode u → p u) ↔ ∀ s ∈ walk t, p s.node := by
  constructor
  · intro h s hs
    exact h _ (mem_walk_iff.mp hs).isNode
  · intro h u hu
    obtain ⟨s, hs, rfl⟩ := hu.exists_isSite
    exact h s (mem_walk_iff.mpr hs)

/-- A tree is nested if at each of its sites the node is. -/
lemma Tree.isNested_iff : t.IsNested ↔ ∀ s ∈ walk t, s.node.start ≤ s.node.stop ∧
    (∀ c ∈ s.node.children, s.node.start ≤ c.start ∧ c.stop ≤ s.node.stop) ∧
    s.node.children.Pairwise (·.stop ≤ ·.start) := by
  rw [← Tree.forall_isNode_iff (p := fun u => u.start ≤ u.stop ∧
    (∀ c ∈ u.children, u.start ≤ c.start ∧ c.stop ≤ u.stop) ∧ u.children.Pairwise (·.stop ≤ ·.start))]
  constructor
  · intro h u hu
    exact ⟨h.isOrdered u hu, h.within u hu, h.pairwise u hu⟩
  · intro h
    exact ⟨fun u hu => (h u hu).1, fun u hu => (h u hu).2.1, fun u hu => (h u hu).2.2⟩

instance (t : Tree) : Decidable t.IsNested := decidable_of_iff _ Tree.isNested_iff.symm

/-- In a nested tree, of two sites the one listed later is below the other, or it begins behind the end of the
other. -/
theorem Tree.IsNested.pairwise_preorder {s : Site} (h : s.node.IsNested) :
    s.preorder.Pairwise fun a b => b ∈ a.preorder ∨ a.node.stop ≤ b.node.start := by
  induction s using below_induction with
  | h s ih =>
    have hchild : ∀ c ∈ s.children, c.node.IsNested := fun c hc =>
      h.of_isNode (.child .self (node_mem_children hc))
    have hwithin : ∀ c ∈ s.children, ∀ x ∈ c.preorder,
        c.node.start ≤ x.node.start ∧ x.node.stop ≤ c.node.stop :=
      fun c hc x hx => (hchild c hc).within_of_isNode (isNode_of_mem_preorder hx)
    have hsiblings : s.children.Pairwise (·.node.stop ≤ ·.node.start) := by
      have := h.pairwise s.node .self
      rwa [← s.map_node_children, List.pairwise_map] at this
    rw [preorder_eq, List.pairwise_cons, List.pairwise_flatMap]
    refine ⟨fun x hx => .inl ?_, fun c hc => ih c hc (hchild c hc), ?_⟩
    · rw [preorder_eq]
      exact List.mem_cons_of_mem s hx
    · refine hsiblings.imp_of_mem fun {c d} hc hd hcd a ha b hb => .inr ?_
      have := hwithin c hc a ha
      have := hwithin d hd b hb
      omega

/-- The nodes of a nested tree are met in the order in which they begin. -/
theorem Tree.IsNested.pairwise_walk (h : t.IsNested) :
    (walk t).Pairwise (·.node.start ≤ ·.node.start) := by
  rw [walk_eq_preorder]
  refine (pairwise_preorder (s := .root t) h).imp_of_mem fun {a b} ha _ hab => ?_
  have hnode : t.IsNode a.node := isNode_of_mem_preorder ha
  obtain hbelow | hbehind := hab
  · exact ((h.of_isNode hnode).within_of_isNode (isNode_of_mem_preorder hbelow)).1
  · exact Nat.le_trans (h.isOrdered a.node hnode) hbehind

end nested

end Diagnosis.Syntax
