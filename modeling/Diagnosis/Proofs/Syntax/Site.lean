import Diagnosis.Syntax.Site
import Mathlib.Data.List.Basic

/-!
# The sites of a tree

`IsNode` and `IsSite` say what the nodes and the places of a tree are without walking it.

* `Site.preorder` lists the sites at and below a site by recursion on the tree. **The stack of the walk is what
  is left to list** (`walkFrom_eq_flatMap_preorder`): whatever stack the walk starts with, it lists what the
  recursion lists at and below each site of the stack. So the walk of a tree is the recursion
  (`walk_eq_preorder`).
* `mem_walk_iff`: the walk meets exactly the sites, and none twice (`nodup_preorder`).
* `pairwise_address_preorder`: no site comes behind a site that is below it. What is below a site is below one
  of its children only (`eq_of_mem_preorder`).
* `IsSite.ext_address`: a site is known by its address, so addresses can stand for sites.
* Children, siblings, ancestors and the root of a site are sites again.
* `Site.IsNearest`: the nearest ancestor with a property, of which there is at most one.
-/

namespace Diagnosis.Syntax

/-- The nodes of a tree: the tree itself, and the children of its nodes. -/
inductive Tree.IsNode (t : Tree) : Tree → Prop
  | self : IsNode t t
  | child {u c : Tree} : IsNode t u → c ∈ u.children → IsNode t c

/-- A node of a tree is its root or a node of a child. -/
lemma Tree.IsNode.eq_or_below {t u : Tree} (h : t.IsNode u) : u = t ∨ ∃ c ∈ t.children, c.IsNode u := by
  induction h with
  | self => exact .inl rfl
  | child _ hc ih =>
    obtain rfl | ⟨d, hd, hu⟩ := ih
    · exact .inr ⟨_, hc, .self⟩
    · exact .inr ⟨d, hd, hu.child hc⟩

/-- A node of a node of a tree is one of the tree. -/
lemma Tree.IsNode.trans {t u v : Tree} (hu : t.IsNode u) (hv : u.IsNode v) : t.IsNode v := by
  induction hv with
  | self => exact hu
  | child _ hc ih => exact ih.child hc

/-- Whether no node of a tree begins after it ends. -/
def Tree.IsOrdered (t : Tree) : Prop := ∀ u, t.IsNode u → u.start ≤ u.stop

/-- The places of a tree: the root, and the children of its places. -/
inductive IsSite (t : Tree) : Site → Prop
  | root : IsSite t (.root t)
  | child {p : Site} {i : Nat} {c : Tree} :
      IsSite t p → p.node.children[i]? = some c → IsSite t (.child p i c)

namespace Site

/-- The node of a child is the child. -/
@[simp]
lemma node_child (p : Site) (i : Nat) (t : Tree) : (child p i t).node = t := rfl

/-- The children from an index on are numbered from there. -/
lemma mem_childrenFrom {s s' : Site} {i : Nat} {ts : List Tree} :
    s' ∈ s.childrenFrom i ts ↔ ∃ k c, ts[k]? = some c ∧ s' = .child s (i + k) c := by
  induction ts generalizing i with
  | nil => simp [childrenFrom]
  | cons t ts ih =>
    rw [childrenFrom, List.mem_cons, ih]
    constructor
    · rintro (rfl | ⟨k, c, hc, rfl⟩)
      · exact ⟨0, t, rfl, rfl⟩
      · exact ⟨k + 1, c, hc, by rw [Nat.add_assoc, Nat.add_comm 1 k]⟩
    · rintro ⟨_ | k, c, hc, rfl⟩
      · left
        rw [List.getElem?_cons_zero, Option.some.injEq] at hc
        rw [hc, Nat.add_zero]
      · exact .inr ⟨k, c, hc, by rw [Nat.add_assoc, Nat.add_comm 1 k]⟩

/-- The children of a node are numbered in order. -/
lemma mem_children {s s' : Site} :
    s' ∈ s.children ↔ ∃ i c, s.node.children[i]? = some c ∧ s' = .child s i c := by
  simp [children, mem_childrenFrom]

/-- Numbering goes on from one list of children to the next. -/
lemma childrenFrom_append (s : Site) (i : Nat) (ts us : List Tree) :
    s.childrenFrom i (ts ++ us) = s.childrenFrom i ts ++ s.childrenFrom (i + ts.length) us := by
  induction ts generalizing i with
  | nil => rfl
  | cons t ts ih =>
    have hindex : i + 1 + ts.length = i + (t :: ts).length := by
      rw [List.length_cons]
      omega
    rw [List.cons_append, childrenFrom, ih, hindex]
    rfl

/-- The children of a node, without their ways, are those of the tree. -/
lemma map_node_children (s : Site) : s.children.map (·.node) = s.node.children := by
  have hfrom : ∀ i (ts : List Tree), (s.childrenFrom i ts).map (·.node) = ts := by
    intro i ts
    induction ts generalizing i with
    | nil => rfl
    | cons t ts ih => rw [childrenFrom, List.map_cons, ih, node_child]
  exact hfrom 0 _

/-- The node of a child is a child of the node. -/
lemma node_mem_children {s s' : Site} (h : s' ∈ s.children) : s'.node ∈ s.node.children := by
  rw [← map_node_children]
  exact List.mem_map_of_mem h

/-- Children are smaller than their parent. -/
lemma size_lt_of_mem_children {s s' : Site} (h : s' ∈ s.children) : s'.node.size < s.node.size := by
  have hle : ∀ ss : List Site, s' ∈ ss → s'.node.size ≤ total ss := by
    intro ss hmem
    induction ss with
    | nil => simp at hmem
    | cons s₁ ss ih =>
      rw [total]
      obtain rfl | hmem := List.mem_cons.mp hmem
      · exact Nat.le_add_right _ _
      · exact Nat.le_trans (ih hmem) (Nat.le_add_left _ _)
  have := total_children s
  have := hle _ h
  omega

/-- What holds of a site whenever it holds of its children holds of every site. -/
lemma below_induction {P : Site → Prop} (h : ∀ s, (∀ c ∈ s.children, P c) → P s) (s : Site) : P s :=
  h s fun c _ => below_induction h c
termination_by s.node.size
decreasing_by exact size_lt_of_mem_children ‹_›

/-- The child in a role is a child, and has the role. -/
lemma mem_of_childAt? {s s' : Site} {field : String} (h : s.childAt? field = some s') :
    s' ∈ s.children ∧ s'.node.field = some field := by
  unfold childAt? at h
  exact ⟨List.mem_of_find?_eq_some h, by simpa using List.find?_some h⟩

/-- The child in one of two roles is a child, and has one of them. -/
lemma mem_of_childAt?_orElse {s s' : Site} {field other : String}
    (h : (s.childAt? field <|> s.childAt? other) = some s') :
    s' ∈ s.children ∧ (s'.node.field = some field ∨ s'.node.field = some other) := by
  cases hfirst : s.childAt? field with
  | some c =>
    rw [hfirst] at h
    obtain rfl := Option.some.inj h
    obtain ⟨hc, hfield⟩ := mem_of_childAt? hfirst
    exact ⟨hc, .inl hfield⟩
  | none =>
    rw [hfirst] at h
    obtain ⟨hc, hfield⟩ := mem_of_childAt? h
    exact ⟨hc, .inr hfield⟩

/-- The named children are the children with a name of their kind. -/
lemma mem_namedChildren {s s' : Site} :
    s' ∈ s.namedChildren ↔ s' ∈ s.children ∧ s'.node.named = true := by
  simp [namedChildren]

end Site

open Site

namespace IsSite

variable {t : Tree} {s s' : Site}

/-- Children of a node of a tree are nodes of it. -/
lemma of_mem_children (h : IsSite t s) (hs' : s' ∈ s.children) : IsSite t s' := by
  obtain ⟨i, c, hc, rfl⟩ := mem_children.mp hs'
  exact .child h hc

/-- The parent of a node of a tree is one, and has the node among its children. -/
lemma parent {p : Site} {i : Nat} {c : Tree} (h : IsSite t (.child p i c)) :
    IsSite t p ∧ p.node.children[i]? = some c := by
  cases h with
  | child hp hc => exact ⟨hp, hc⟩

/-- What stands at a site of a tree is a node of it. -/
lemma isNode (h : IsSite t s) : t.IsNode s.node := by
  induction h with
  | root => exact .self
  | child _ hc ih => exact .child ih (List.mem_of_getElem? hc)

/-- Ancestors of a node of a tree are nodes of it. -/
lemma of_mem_ancestors (h : IsSite t s) (hs' : s' ∈ s.ancestors) : IsSite t s' := by
  induction h with
  | root => simp [ancestors] at hs'
  | child hp _ ih =>
    rw [ancestors, List.mem_cons] at hs'
    obtain rfl | hs' := hs'
    · exact hp
    · exact ih hs'

/-- The siblings that follow a node of a tree are nodes of it. -/
lemma of_mem_nextSiblings (h : IsSite t s) (hs' : s' ∈ s.nextSiblings) : IsSite t s' := by
  cases h with
  | root => simp [nextSiblings] at hs'
  | child hp _ => exact hp.of_mem_children (List.mem_of_mem_drop hs')

/-- A site is known by its address. -/
theorem ext_address (h : IsSite t s) (h' : IsSite t s') (heq : s.address = s'.address) :
    s = s' := by
  induction h generalizing s' with
  | root =>
    cases h' with
    | root => rfl
    | child => simp [address] at heq
  | child hp hc ih =>
    cases h' with
    | root => simp [address] at heq
    | child hp' hc' =>
      rw [address, address, List.cons.injEq] at heq
      obtain ⟨rfl, heq⟩ := heq
      obtain rfl := ih hp' heq
      rw [hc, Option.some.injEq] at hc'
      rw [hc']

end IsSite

/-! ## The nearest ancestor -/

namespace Site

/-- Whether `a` is the nearest of the ancestors of `s` that have a property. -/
def IsNearest (p : Site → Prop) (s a : Site) : Prop :=
  ∃ nearer farther, s.ancestors = nearer ++ a :: farther ∧ p a ∧ ∀ b ∈ nearer, ¬ p b

section nearest

variable {P : Site → Prop} {s a b : Site}

/-- Nothing is near to the root. -/
lemma not_isNearest_root {t : Tree} : ¬ IsNearest P (root t) a := by
  rintro ⟨nearer, farther, hsplit, -⟩
  simp [ancestors] at hsplit

/-- The nearest ancestor of a child is its parent, or that of the parent. -/
lemma isNearest_child {p : Site} {i : Nat} {c : Tree} :
    IsNearest P (child p i c) a ↔ (P p ∧ a = p) ∨ (¬ P p ∧ IsNearest P p a) := by
  unfold IsNearest
  rw [ancestors]
  constructor
  · rintro ⟨_ | ⟨b, nearer⟩, farther, hsplit, ha, hnearer⟩
    · obtain ⟨rfl, -⟩ := List.cons.inj hsplit
      exact .inl ⟨ha, rfl⟩
    · obtain ⟨rfl, hrest⟩ := List.cons.inj hsplit
      exact .inr ⟨hnearer _ List.mem_cons_self, nearer, farther, hrest, ha,
        fun b hb => hnearer b (List.mem_cons_of_mem _ hb)⟩
  · rintro (⟨hp, rfl⟩ | ⟨hp, nearer, farther, hsplit, ha, hnearer⟩)
    · exact ⟨[], a.ancestors, rfl, hp, by simp⟩
    · refine ⟨p :: nearer, farther, by rw [hsplit]; rfl, ha, fun b hb => ?_⟩
      obtain rfl | hb := List.mem_cons.mp hb
      · exact hp
      · exact hnearer b hb

/-- There is one nearest ancestor at most. -/
lemma IsNearest.unique (ha : IsNearest P s a) (hb : IsNearest P s b) : a = b := by
  induction s with
  | root => exact absurd ha not_isNearest_root
  | child p i c ih =>
    obtain ⟨hp, rfl⟩ | ⟨hp, ha⟩ := isNearest_child.mp ha
    · obtain ⟨-, rfl⟩ | ⟨hp', -⟩ := isNearest_child.mp hb
      · rfl
      · exact absurd hp hp'
    · obtain ⟨hp', -⟩ | ⟨-, hb⟩ := isNearest_child.mp hb
      · exact absurd hp' hp
      · exact ih ha hb

/-- The nearest ancestor is an ancestor. -/
lemma IsNearest.mem_ancestors (h : IsNearest P s a) : a ∈ s.ancestors := by
  obtain ⟨nearer, farther, hsplit, -⟩ := h
  rw [hsplit]
  exact List.mem_append_right _ List.mem_cons_self

/-- Which ancestor is nearest is a matter of the ancestors alone. -/
lemma isNearest_congr {Q : Site → Prop} (h : ∀ b ∈ s.ancestors, P b ↔ Q b) :
    IsNearest P s a ↔ IsNearest Q s a := by
  induction s with
  | root => exact iff_of_false not_isNearest_root not_isNearest_root
  | child p i c ih =>
    rw [ancestors, List.forall_mem_cons] at h
    rw [isNearest_child, isNearest_child, h.1, ih h.2]

/-- The nearest ancestor is of the kind. -/
lemma IsNearest.holds (h : IsNearest P s a) : P a := by
  obtain ⟨_, _, _, ha, _⟩ := h
  exact ha

/-- Ancestors have shorter addresses. -/
lemma address_length_lt (h : a ∈ s.ancestors) : a.address.length < s.address.length := by
  induction s with
  | root => simp [ancestors] at h
  | child p i c ih =>
    rw [address, List.length_cons]
    obtain rfl | h := List.mem_cons.mp h
    · exact Nat.lt_add_one _
    · exact Nat.lt_succ_of_lt (ih h)

/-- An ancestor is the nearest with a property if no other ancestor below it has the property. -/
lemma isNearest_iff_of_mem (ha : a ∈ s.ancestors) :
    IsNearest P s a ↔ P a ∧ ∀ b ∈ s.ancestors, a ∈ b.ancestors → ¬ P b := by
  induction s with
  | root => simp [ancestors] at ha
  | child p i c ih =>
    rw [isNearest_child, ancestors, List.forall_mem_cons]
    obtain rfl | ha := List.mem_cons.mp ha
    · have hself : a ∉ a.ancestors := fun h => Nat.lt_irrefl _ (address_length_lt h)
      have hbelow : ∀ b ∈ a.ancestors, a ∉ b.ancestors := fun b hb h =>
        Nat.lt_asymm (address_length_lt hb) (address_length_lt h)
      constructor
      · rintro (⟨hP, -⟩ | ⟨-, hnearest⟩)
        · exact ⟨hP, fun h => absurd h hself, fun b hb h => absurd h (hbelow b hb)⟩
        · exact absurd hnearest.mem_ancestors hself
      · exact fun h => .inl ⟨h.1, rfl⟩
    · rw [ih ha]
      have hne : a ≠ p := fun h => Nat.lt_irrefl _ (address_length_lt (h ▸ ha))
      constructor
      · rintro (⟨-, rfl⟩ | ⟨hp, hP, hbelow⟩)
        · exact absurd rfl hne
        · exact ⟨hP, fun _ => hp, hbelow⟩
      · rintro ⟨hP, hp, hbelow⟩
        exact .inr ⟨hp ha, hP, hbelow⟩

/-- If an ancestor has a property, then one is the nearest that has it. -/
lemma exists_isNearest (ha : a ∈ s.ancestors) (hP : P a) : ∃ b, IsNearest P s b := by
  induction s with
  | root => simp [ancestors] at ha
  | child p i c ih =>
    by_cases hp : P p
    · exact ⟨p, isNearest_child.mpr (.inl ⟨hp, rfl⟩)⟩
    · rw [ancestors, List.mem_cons] at ha
      obtain rfl | ha := ha
      · exact absurd hP hp
      · obtain ⟨b, hb⟩ := ih ha
        exact ⟨b, isNearest_child.mpr (.inr ⟨hp, hb⟩)⟩

end nearest

end Site

/-! ## The recursive traversal -/

namespace Site

mutual

/-- What is at and below the site `s`, the node of which is the given tree. -/
def preorderIn (s : Site) : Tree → List Site
  | ⟨_, _, _, _, _, _, _, children⟩ => s :: preorderAll s 0 children

/-- What is at and below the given children of `s`, the first of which has the index `i`. -/
def preorderAll (s : Site) (i : Nat) : List Tree → List Site
  | [] => []
  | t :: ts => preorderIn (.child s i t) t ++ preorderAll s (i + 1) ts

end

/-- The sites at and below a site: a site comes before those below it, and those below a child before those
below the next. -/
def preorder (s : Site) : List Site := preorderIn s s.node

/-- The preorder of a list of children is that of one after the other. -/
lemma preorderAll_eq (s : Site) (i : Nat) (ts : List Tree) :
    preorderAll s i ts = (s.childrenFrom i ts).flatMap preorder := by
  induction ts generalizing i with
  | nil =>
    rw [preorderAll]
    rfl
  | cons t ts ih =>
    rw [preorderAll, childrenFrom, List.flatMap_cons, ih]
    rfl

/-- The recursion, in terms of sites. -/
lemma preorder_eq (s : Site) : s.preorder = s :: s.children.flatMap preorder := by
  unfold preorder children
  obtain ⟨kind, start, stop, field, named, missing, faulty, children⟩ := s.node
  rw [preorderIn, preorderAll_eq]
  rfl

/-- The preorder of a leaf is the leaf. -/
lemma preorder_of_leaf {s : Site} (h : s.node.children = []) : s.preorder = [s] := by
  rw [preorder_eq, children, h]
  rfl

section below

variable {s c d x : Site}

/-- The preorder has the node itself and what the preorders of its children have. -/
lemma mem_preorder_iff : x ∈ s.preorder ↔ x = s ∨ ∃ c ∈ s.children, x ∈ c.preorder := by
  rw [preorder_eq, List.mem_cons, List.mem_flatMap]

/-- The preorder has the node itself. -/
lemma mem_preorder_self (s : Site) : s ∈ s.preorder := mem_preorder_iff.mpr (.inl rfl)

/-- The preorder has what the preorder of a child has. -/
lemma mem_preorder_of_child (hc : c ∈ s.children) (hx : x ∈ c.preorder) : x ∈ s.preorder :=
  mem_preorder_iff.mpr (.inr ⟨c, hc, hx⟩)

/-- The preorder has what the preorder of any node in it has. -/
lemma mem_preorder_trans (hx : x ∈ s.preorder) (hd : d ∈ x.preorder) : d ∈ s.preorder := by
  induction s using below_induction with
  | h s ih =>
    obtain rfl | ⟨c, hc, hx⟩ := mem_preorder_iff.mp hx
    · exact hd
    · exact mem_preorder_of_child hc (ih c hc hx)

/-- What the preorder has are nodes below the node. -/
lemma isNode_of_mem_preorder (hx : x ∈ s.preorder) : s.node.IsNode x.node := by
  induction s using below_induction with
  | h s ih =>
    obtain rfl | ⟨c, hc, hx⟩ := mem_preorder_iff.mp hx
    · exact .self
    · exact (Tree.IsNode.self.child (node_mem_children hc)).trans (ih c hc hx)

end below

end Site

/-! ## The walk -/

namespace Site

/-- The walk takes the first node, and then its children before the others. -/
lemma walkFrom_cons (s : Site) (rest : List Site) :
    walkFrom (s :: rest) = s :: walkFrom (s.children ++ rest) := by
  rw [walkFrom]

/-- **The stack of the walk is what is left to list**, each of its sites standing for all that is at and
below it. -/
theorem walkFrom_eq_flatMap_preorder (stack : List Site) :
    walkFrom stack = stack.flatMap preorder := by
  fun_induction walkFrom stack with
  | case1 => rfl
  | case2 s rest ih =>
    -- the children stand for what is below the site that is taken off
    calc s :: walkFrom (s.children ++ rest)
      _ = s :: (s.children ++ rest).flatMap preorder := by rw [ih]
      _ = (s :: s.children.flatMap preorder) ++ rest.flatMap preorder := by
        rw [List.flatMap_append, List.cons_append]
      _ = (s :: rest).flatMap preorder := by rw [← preorder_eq, List.flatMap_cons]

/-- The walk lists the sites of a tree in the order of the recursion. -/
theorem walk_eq_preorder (t : Tree) : walk t = (root t).preorder := by
  rw [walk, walkFrom_eq_flatMap_preorder, List.flatMap_singleton]

/-- The preorder of a node of a tree has nodes of the tree. -/
lemma isSite_of_mem_preorder {t : Tree} {s s' : Site} (hs : IsSite t s) (h : s' ∈ s.preorder) :
    IsSite t s' := by
  induction s using below_induction with
  | h s ih =>
    obtain rfl | ⟨c, hc, h⟩ := mem_preorder_iff.mp h
    · exact hs
    · exact ih c hc (hs.of_mem_children hc) h

/-- The walk meets exactly the sites of the tree. -/
theorem mem_walk_iff {t : Tree} {s : Site} : s ∈ walk t ↔ IsSite t s := by
  rw [walk_eq_preorder]
  constructor
  · exact isSite_of_mem_preorder .root
  · intro h
    induction h with
    | root => exact mem_preorder_self _
    | child _ hc ih =>
      have hchild := mem_preorder_of_child (mem_children.mpr ⟨_, _, hc, rfl⟩) (mem_preorder_self _)
      exact mem_preorder_trans ih hchild

/-! ## Document order -/

section order

/-- The address of an ancestor is a part of the address. -/
lemma address_isSuffix_of_mem_ancestors {s a : Site} (h : a ∈ s.ancestors) :
    a.address <:+ s.address := by
  induction s with
  | root => exact absurd h List.not_mem_nil
  | child p i c ih =>
    obtain rfl | h := List.mem_cons.mp h
    · exact List.suffix_cons i _
    · exact (ih h).trans (List.suffix_cons i _)

/-- The address of a node is a part of the addresses below it. -/
lemma address_isSuffix_of_mem_preorder {s s' : Site} (h : s' ∈ s.preorder) :
    s.address <:+ s'.address := by
  induction s using below_induction with
  | h s ih =>
    obtain rfl | ⟨c, hc, h⟩ := mem_preorder_iff.mp h
    · exact List.suffix_rfl
    · have hbelow := ih c hc h
      obtain ⟨i, t, -, rfl⟩ := mem_children.mp hc
      exact (List.suffix_cons i s.address).trans hbelow

/-- Of the addresses of the children of a site, only one is the end of a given address. -/
lemma eq_of_address_isSuffix {s c d : Site} {a : Address} (hc : c ∈ s.children) (hd : d ∈ s.children)
    (hca : c.address <:+ a) (hda : d.address <:+ a) : c = d := by
  obtain ⟨i, t, ht, rfl⟩ := mem_children.mp hc
  obtain ⟨j, u, hu, rfl⟩ := mem_children.mp hd
  have hlength : (child s i t).address.length = (child s j u).address.length := rfl
  have heq := (List.suffix_of_suffix_length_le hca hda (Nat.le_of_eq hlength)).eq_of_length hlength
  obtain rfl : i = j := List.head_eq_of_cons_eq heq
  rw [ht] at hu
  rw [Option.some.inj hu]

/-- Children are different from each other. -/
lemma pairwise_childrenFrom (s : Site) (i : Nat) (ts : List Tree) :
    (s.childrenFrom i ts).Pairwise (· ≠ ·) := by
  induction ts generalizing i with
  | nil => exact .nil
  | cons t ts ih =>
    rw [childrenFrom, List.pairwise_cons]
    refine ⟨fun b hb heq => ?_, ih (i + 1)⟩
    obtain ⟨k, c, -, rfl⟩ := mem_childrenFrom.mp hb
    injection heq
    omega

/-- What is below a site is below one of its children only. -/
lemma eq_of_mem_preorder {s c d x : Site} (hc : c ∈ s.children) (hd : d ∈ s.children)
    (hxc : x ∈ c.preorder) (hxd : x ∈ d.preorder) : c = d :=
  eq_of_address_isSuffix hc hd (address_isSuffix_of_mem_preorder hxc)
    (address_isSuffix_of_mem_preorder hxd)

/-- No site comes behind a site that is below it. -/
theorem pairwise_address_preorder (s : Site) :
    s.preorder.Pairwise fun a b => ¬ b.address <:+ a.address := by
  induction s using below_induction with
  | h s ih =>
    rw [preorder_eq, List.pairwise_cons, List.pairwise_flatMap]
    refine ⟨fun b hb hsuffix => ?_, ih, (pairwise_childrenFrom s 0 s.node.children).imp_of_mem ?_⟩
    · obtain ⟨c, hc, hb⟩ := List.mem_flatMap.mp hb
      have hbelow := address_isSuffix_of_mem_preorder hb
      obtain ⟨i, t, -, rfl⟩ := mem_children.mp hc
      have hlength := (hbelow.trans hsuffix).length_le
      rw [address, List.length_cons] at hlength
      omega
    · intro c d hc hd hne a ha b hb hsuffix
      exact hne (eq_of_address_isSuffix hc hd (address_isSuffix_of_mem_preorder ha)
        ((address_isSuffix_of_mem_preorder hb).trans hsuffix))

/-- No place is listed twice. -/
theorem nodup_preorder (s : Site) : (s.preorder.map (·.address)).Nodup := by
  refine List.pairwise_map.mpr (s.pairwise_address_preorder.imp fun {a b} hnot heq => hnot ?_)
  exact heq ▸ List.suffix_refl b.address

/-- What comes before a site in the walk is neither the site nor below it. -/
lemma not_isSuffix_of_mem_before {t : Tree} {s s' : Site} {before after : List Site}
    (hsplit : walk t = before ++ s :: after) (hs' : s' ∈ before) : ¬ s.address <:+ s'.address := by
  have hpairwise := pairwise_address_preorder (root t)
  rw [← walk_eq_preorder, hsplit, List.pairwise_append] at hpairwise
  exact hpairwise.2.2 s' hs' s List.mem_cons_self

end order

end Site

end Diagnosis.Syntax
