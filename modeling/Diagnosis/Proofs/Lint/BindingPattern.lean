import Diagnosis.Proofs.Lint.Pattern
import Diagnosis.Proofs.Lists
import Diagnosis.Proofs.Syntax.Move
import Mathlib.Data.List.Flatten

/-!
# The names of a binding pattern

A pattern binds names, and it mentions others: those in its default values and in the keys of its pairs. Both
are identifiers of one tree, and here is what tells them apart.

* `IsBindingPattern` is the grammar of patterns, over the trees of a text. What a default value or a key looks
  like is left open, and it may hold patterns in turn.
* `IsBoundName`: an identifier anywhere in a pattern is bound unless it is in one of the default values or
  keys. This speaks of all nodes of the pattern, and not of the way in which names are collected.
* `IsBindingPattern.inversion`: a pattern is an identifier, or its names are those of its parts.

**The names** (`patternIdentifiers_of_isBindingPattern`): of a pattern exactly the bound names are collected,
each once and in the order of the text.
-/

namespace Diagnosis.Lint

open Diagnosis.Syntax

/-! ## The grammar -/

/-- Whether a node is an identifier, or the short form of a pair whose key is the name that it binds. -/
def IsName (t : Tree) : Prop :=
  t.kind = "identifier" ∨ t.kind = "shorthand_property_identifier_pattern"

/-- Whether a node stands between the parts of a pattern: punctuation or a comment. -/
structure IsTrivia (t : Tree) : Prop where
  /-- It is no construct, or it is a comment. -/
  idle : t.named = false ∨ t.kind = "comment" ∨ t.kind = "html_comment"
  /-- It is no identifier. -/
  notName : ¬ IsName t
  /-- It has no role. -/
  field : t.field = none
  /-- It is a token. -/
  leaf : t.children = []

instance : DecidablePred IsName := fun t =>
  inferInstanceAs (Decidable (t.kind = "identifier" ∨ t.kind = "shorthand_property_identifier_pattern"))

/-- Whether a node is trivia can be computed. -/
lemma isTrivia_iff {t : Tree} : IsTrivia t ↔
    (t.named = false ∨ t.kind = "comment" ∨ t.kind = "html_comment") ∧ ¬ IsName t ∧ t.field = none ∧
      t.children.isEmpty = true := by
  rw [List.isEmpty_iff]
  exact ⟨fun h => ⟨h.idle, h.notName, h.field, h.leaf⟩, fun ⟨hidle, hname, hfield, hleaf⟩ =>
    ⟨hidle, hname, hfield, hleaf⟩⟩

instance : DecidablePred IsTrivia := fun _ => decidable_of_iff _ isTrivia_iff.symm

/-- Whether a node consists of two parts with the given roles, and of what stands between them. -/
def ConsistsOf (t : Tree) (role : String) (part : Tree) (role' : String) (part' : Tree) : Prop :=
  part.field = some role ∧ part'.field = some role' ∧
    ∃ before between after, t.children = before ++ part :: (between ++ part' :: after) ∧
      ∀ c ∈ before ++ between ++ after, IsTrivia c

/-- Patterns that bind names. Nothing else is one: neither what only an assignment may give a value to, such as
a member of an object, nor the word `undefined`, which is a node of its own kind. -/
inductive IsBindingPattern : Tree → Prop
  /-- An identifier. -/
  | name {t : Tree} : IsName t → t.children = [] → IsBindingPattern t
  /-- A pattern with a default value. -/
  | default {t left right : Tree} :
      t.kind = "assignment_pattern" ∨ t.kind = "object_assignment_pattern" →
        ConsistsOf t "left" left "right" right → IsBindingPattern left → IsBindingPattern t
  /-- A pair of a key and a pattern. -/
  | pair {t key value : Tree} :
      t.kind = "pair_pattern" → ConsistsOf t "key" key "value" value → IsBindingPattern value →
        IsBindingPattern t
  /-- An object, an array, a list of parameters or a rest element, all parts of which are patterns. -/
  | group {t : Tree} :
      t.kind ∈ ["object_pattern", "array_pattern", "formal_parameters", "rest_pattern"] →
        (∀ c ∈ t.children, ¬ IsTrivia c → c.named = true) →
        (∀ c ∈ t.children, ¬ IsTrivia c → IsBindingPattern c) → IsBindingPattern t

/-! ## Bound names -/

/-- Whether a child is what a pattern mentions without binding names in it: its default value or its key. -/
def IsAside (p part : Site) : Prop :=
  (p.kind = "assignment_pattern" ∨ p.kind = "object_assignment_pattern") ∧
      part.node.field = some "right" ∨
    p.kind = "pair_pattern" ∧ part.node.field = some "key"

/-- Whether the pattern at the site `s` binds an identifier. -/
structure IsBoundName (s ident : Site) : Prop where
  /-- It is in the pattern. -/
  mem : ident ∈ s.preorder
  /-- It is an identifier. -/
  isName : IsName ident.node
  /-- It is neither in a default value nor in a key. -/
  notAside : ∀ p ∈ s.preorder, ∀ part ∈ p.children, IsAside p part → ident ∉ part.preorder

section bound

variable {s c ident : Site}

/-- A leaf binds itself, if it is a name. -/
lemma isBoundName_of_leaf (hleaf : s.node.children = []) :
    IsBoundName s ident ↔ ident = s ∧ IsName s.node := by
  have hpreorder := Site.preorder_of_leaf hleaf
  constructor
  · rintro ⟨hmem, hname, -⟩
    rw [hpreorder, List.mem_singleton] at hmem
    exact ⟨hmem, hmem ▸ hname⟩
  · rintro ⟨rfl, hname⟩
    refine ⟨ident.mem_preorder_self, hname, fun p hp part hpart => ?_⟩
    rw [hpreorder, List.mem_singleton] at hp
    rw [hp, Site.children, hleaf] at hpart
    exact absurd hpart List.not_mem_nil

/-- Trivia bind nothing. -/
lemma IsTrivia.not_isBoundName (h : IsTrivia s.node) : ¬ IsBoundName s ident := fun hbound =>
  h.notName ((isBoundName_of_leaf h.leaf).mp hbound).2

/-- What a node other than an identifier binds is bound by a child that is not aside. -/
lemma isBoundName_iff (hs : ¬ IsName s.node) :
    IsBoundName s ident ↔ ∃ c ∈ s.children, ¬ IsAside s c ∧ IsBoundName c ident := by
  constructor
  · rintro ⟨hmem, hname, hnot⟩
    obtain rfl | ⟨c, hc, hident⟩ := Site.mem_preorder_iff.mp hmem
    · exact absurd hname hs
    · exact ⟨c, hc, fun haside => hnot s s.mem_preorder_self c hc haside hident, hident, hname,
        fun p hp => hnot p (Site.mem_preorder_of_child hc hp)⟩
  · rintro ⟨c, hc, hcaside, hident, hname, hnot⟩
    refine ⟨Site.mem_preorder_of_child hc hident, hname, fun p hp part hpart haside hbelow => ?_⟩
    -- the identifier is below `c` only, so what is aside and has it is `c` or below `c`
    obtain rfl | ⟨d, hd, hpd⟩ := Site.mem_preorder_iff.mp hp
    · obtain rfl := Site.eq_of_mem_preorder hc hpart hident hbelow
      exact hcaside haside
    · have hpartd := Site.mem_preorder_of_child hpart hbelow
      obtain rfl := Site.eq_of_mem_preorder hc hd hident (Site.mem_preorder_trans hpd hpartd)
      exact hnot p hpd part hpart haside hbelow

end bound

/-! ## The parts of a pattern -/

section parts

variable {s : Site}

/-- What stands between the parts has none of the roles. -/
lemma find?_childrenFrom_eq_none {ts : List Tree} (i : Nat) (role : String)
    (h : ∀ t ∈ ts, IsTrivia t) :
    (s.childrenFrom i ts).find? (·.node.field == some role) = none := by
  refine List.find?_eq_none.mpr fun c hc hfield => ?_
  obtain ⟨k, t, ht, rfl⟩ := Site.mem_childrenFrom.mp hc
  rw [Site.node_child, (h t (List.mem_of_getElem? ht)).field] at hfield
  exact Bool.noConfusion hfield

/-- The two parts are found by their roles, and there is nothing else. -/
lemma ConsistsOf.exists_childAt? {role role' : String} {part part' : Tree}
    (h : ConsistsOf s.node role part role' part') (hne : role ≠ role') :
    ∃ c c', s.childAt? role = some c ∧ c.node = part ∧ s.childAt? role' = some c' ∧ c'.node = part' ∧
      ∀ d ∈ s.children, d = c ∨ d = c' ∨ IsTrivia d.node := by
  obtain ⟨hpart, hpart', before, between, after, hchildren, htrivia⟩ := h
  rw [List.forall_mem_append, List.forall_mem_append] at htrivia
  obtain ⟨⟨hbefore, hbetween⟩, hafter⟩ := htrivia
  let i := before.length
  let j := i + 1 + between.length
  have hsites : s.children = s.childrenFrom 0 before ++ .child s i part ::
      (s.childrenFrom (i + 1) between ++ .child s j part' :: s.childrenFrom (j + 1) after) := by
    rw [Site.children, hchildren, Site.childrenFrom_append, Nat.zero_add, Site.childrenFrom,
      Site.childrenFrom_append, Site.childrenFrom]
  refine ⟨.child s i part, .child s j part', ?_, rfl, ?_, rfl, fun d hd => ?_⟩
  · rw [Site.childAt?, hsites, List.find?_append, find?_childrenFrom_eq_none 0 role hbefore,
      List.find?_cons_of_pos (by simp [hpart])]
    rfl
  · rw [Site.childAt?, hsites, List.find?_append, find?_childrenFrom_eq_none 0 role' hbefore,
      List.find?_cons_of_neg (by simpa [hpart] using hne), List.find?_append,
      find?_childrenFrom_eq_none (i + 1) role' hbetween, List.find?_cons_of_pos (by simp [hpart'])]
    rfl
  · have hbare : ∀ k (ts : List Tree), (∀ t ∈ ts, IsTrivia t) → d ∈ s.childrenFrom k ts →
        IsTrivia d.node := by
      intro k ts hts hd
      obtain ⟨n, t, ht, rfl⟩ := Site.mem_childrenFrom.mp hd
      exact hts t (List.mem_of_getElem? ht)
    rw [hsites, List.mem_append, List.mem_cons, List.mem_append, List.mem_cons] at hd
    obtain hd | rfl | hd | rfl | hd := hd
    · exact .inr (.inr (hbare _ _ hbefore hd))
    · exact .inl rfl
    · exact .inr (.inr (hbare _ _ hbetween hd))
    · exact .inr (.inl rfl)
    · exact .inr (.inr (hbare _ _ hafter hd))

end parts

/-! ## What is collected of a pattern -/

section collected

variable {s ident : Site}

/-- A name stands for itself. -/
lemma patternIdentifiers_of_isName (h : IsName s.node) : patternIdentifiers s = [s] := by
  have hkind : Pattern.nameKinds.contains s.kind = true := by
    obtain h | h := h <;> rw [Site.kind, h] <;> decide
  rw [patternIdentifiers_eq, if_pos hkind]

/-- A pattern with a default stands for the names on its left. -/
lemma patternIdentifiers_of_default
    (h : s.kind = "assignment_pattern" ∨ s.kind = "object_assignment_pattern") :
    patternIdentifiers s = patternIdentifiers? (s.childAt? "left") := by
  obtain h | h := h <;>
    rw [patternIdentifiers_eq, h, if_neg (by decide), if_pos (by decide)]

/-- A pair stands for the names in its value. -/
lemma patternIdentifiers_of_pair (h : s.kind = "pair_pattern") :
    patternIdentifiers s = patternIdentifiers? (s.childAt? "value") := by
  rw [patternIdentifiers_eq, h, if_neg (by decide), if_neg (by decide), if_pos (by decide)]

/-- A group stands for the names of its named children, one after the other. -/
lemma patternIdentifiers_of_group (h : s.kind ∈ Pattern.groupKinds) :
    patternIdentifiers s = s.namedChildren.flatMap patternIdentifiers := by
  obtain ⟨hname, hdefault, hpair⟩ := (show ∀ kind ∈ Pattern.groupKinds,
    Pattern.nameKinds.contains kind = false ∧ Pattern.defaultKinds.contains kind = false ∧
      (kind == "pair_pattern") = false by decide) _ h
  rw [patternIdentifiers_eq, hname, hdefault, hpair, if_neg (by decide), if_neg (by decide),
    if_neg (by decide), if_pos (List.contains_iff_mem.mpr h)]

/-- Trivia stand for no names, whatever kind they are of. -/
lemma IsTrivia.patternIdentifiers_eq_nil (h : IsTrivia s.node) : patternIdentifiers s = [] := by
  have hchildren : s.children = [] := by
    rw [Site.children, h.leaf]
    rfl
  have hname : ¬ Pattern.nameKinds.contains s.kind = true := fun hcontains =>
    h.notName (by simpa [Pattern.nameKinds, Site.kind, IsName] using hcontains)
  rw [patternIdentifiers_eq, if_neg hname, Site.childAt?, Site.childAt?, Site.namedChildren, hchildren]
  simp [patternIdentifiers?]

/-- Whether the patterns among the children of a site are the given ones: its names are theirs, and what other
children it has is trivia or aside. -/
structure HasParts (s : Site) (parts : List Site) : Prop where
  /-- The parts are children, in their order. -/
  sublist : parts.Sublist s.children
  /-- The names of the parts are collected. -/
  names : patternIdentifiers s = parts.flatMap patternIdentifiers
  /-- They are patterns. -/
  pattern : ∀ c ∈ parts, IsBindingPattern c.node ∧ ¬ IsAside s c
  /-- The other children bind nothing. -/
  rest : ∀ c ∈ s.children, c ∉ parts → IsTrivia c.node ∨ IsAside s c

/-- Of two children with roles, one may be the only part and the other aside. -/
lemma hasParts_singleton {c c' : Site} (hc : c ∈ s.children)
    (hnames : patternIdentifiers s = patternIdentifiers c) (hpattern : IsBindingPattern c.node)
    (hnot : ¬ IsAside s c) (haside : IsAside s c')
    (hall : ∀ d ∈ s.children, d = c ∨ d = c' ∨ IsTrivia d.node) : HasParts s [c] where
  sublist := List.singleton_sublist.mpr hc
  names := by rw [hnames, List.flatMap_singleton]
  pattern := List.forall_mem_singleton.mpr ⟨hpattern, hnot⟩
  rest d hd hne := by
    obtain rfl | rfl | htrivia := hall d hd
    · exact absurd (List.mem_singleton.mpr rfl) hne
    · exact .inr haside
    · exact .inl htrivia

/-- The parts of a group are those of its named children that are no trivia. -/
lemma hasParts_of_group (hkind : s.kind ∈ Pattern.groupKinds)
    (hnamed : ∀ c ∈ s.node.children, ¬ IsTrivia c → c.named = true)
    (hpatterns : ∀ c ∈ s.node.children, ¬ IsTrivia c → IsBindingPattern c) :
    HasParts s (s.namedChildren.filter fun c => ¬ IsTrivia c.node) where
  sublist := List.filter_sublist.trans List.filter_sublist
  names := by
    rw [patternIdentifiers_of_group hkind]
    refine (flatMap_filter_of_eq_nil fun c _ htrivia => ?_).symm
    exact IsTrivia.patternIdentifiers_eq_nil (by simpa using htrivia)
  pattern c hc := by
    obtain ⟨hc, hnot⟩ := List.mem_filter.mp hc
    have hnode := Site.node_mem_children (Site.mem_namedChildren.mp hc).1
    have hkinds := (show ∀ kind ∈ Pattern.groupKinds, kind ≠ "assignment_pattern" ∧
      kind ≠ "object_assignment_pattern" ∧ kind ≠ "pair_pattern" by decide) _ hkind
    refine ⟨hpatterns c.node hnode (of_decide_eq_true hnot), ?_⟩
    simp [IsAside, hkinds]
  rest c hc hnot := by
    by_contra hneither
    have htrivia : ¬ IsTrivia c.node := fun h => hneither (.inl h)
    have hmem := Site.mem_namedChildren.mpr ⟨hc, hnamed c.node (Site.node_mem_children hc) htrivia⟩
    exact hnot (List.mem_filter.mpr ⟨hmem, decide_eq_true htrivia⟩)

/-- A pattern is an identifier, or it has patterns as its parts. -/
lemma IsBindingPattern.inversion (h : IsBindingPattern s.node) :
    (IsName s.node ∧ s.node.children = [] ∧ patternIdentifiers s = [s]) ∨
      ¬ IsName s.node ∧ ∃ parts, HasParts s parts := by
  cases h with
  | name hname hleaf => exact .inl ⟨hname, hleaf, patternIdentifiers_of_isName hname⟩
  | default hkind hparts hleft =>
    obtain ⟨c, c', hc, rfl, hc', rfl, hall⟩ := hparts.exists_childAt? (by decide)
    have hpair : s.kind ≠ "pair_pattern" := by
      obtain h | h := hkind <;> rw [Site.kind, h] <;> decide
    have hname : ¬ IsName s.node := by
      obtain h | h := hkind <;> rw [IsName, h] <;> decide
    refine .inr ⟨hname, [c], hasParts_singleton (Site.mem_of_childAt? hc).1 ?_ hleft ?_
      (.inl ⟨hkind, hparts.2.1⟩) hall⟩
    · rw [patternIdentifiers_of_default hkind, hc]
      rfl
    · simp [IsAside, hparts.1, hpair]
  | pair hkind hparts hvalue =>
    obtain ⟨c, c', hc, rfl, hc', rfl, hall⟩ := hparts.exists_childAt? (by decide)
    have hname : ¬ IsName s.node := by
      rw [IsName, hkind]
      decide
    refine .inr ⟨hname, [c'], hasParts_singleton (Site.mem_of_childAt? hc').1 ?_ hvalue ?_
      (.inr ⟨hkind, hparts.1⟩) fun d hd => or_left_comm.mp (hall d hd)⟩
    · rw [patternIdentifiers_of_pair hkind, hc']
      rfl
    · simp [IsAside, hparts.2.1, Site.kind, hkind]
  | group hkind hnamed hpatterns =>
    have hname : ¬ IsName s.node := by
      have := (show ∀ kind ∈ Pattern.groupKinds, kind ≠ "identifier" ∧
        kind ≠ "shorthand_property_identifier_pattern" by decide) _ hkind
      simp [IsName, this]
    exact .inr ⟨hname, _, hasParts_of_group hkind hnamed hpatterns⟩

/-- The bound names are collected, and nothing else. -/
lemma mem_patternIdentifiers_iff_isBoundName (h : IsBindingPattern s.node) :
    ident ∈ patternIdentifiers s ↔ IsBoundName s ident := by
  induction s using Site.below_induction with
  | h s ih =>
    obtain ⟨hname, hleaf, hself⟩ | ⟨hname, parts, hparts⟩ := h.inversion
    · rw [hself, List.mem_singleton, isBoundName_of_leaf hleaf, and_iff_left hname]
    · have hpart : ∀ c ∈ parts, (ident ∈ patternIdentifiers c ↔ IsBoundName c ident) :=
        fun c hc => ih c (hparts.sublist.subset hc) (hparts.pattern c hc).1
      rw [hparts.names, List.mem_flatMap, isBoundName_iff hname]
      constructor
      · rintro ⟨c, hc, hident⟩
        exact ⟨c, hparts.sublist.subset hc, (hparts.pattern c hc).2, (hpart c hc).mp hident⟩
      · rintro ⟨c, hc, hnot, hident⟩
        by_cases hmem : c ∈ parts
        · exact ⟨c, hmem, (hpart c hmem).mpr hident⟩
        · obtain htrivia | haside := hparts.rest c hc hmem
          · exact absurd hident htrivia.not_isBoundName
          · exact absurd haside hnot

/-- Names are collected in the order of the text. -/
lemma sublist_preorder_patternIdentifiers (h : IsBindingPattern s.node) :
    (patternIdentifiers s).Sublist s.preorder := by
  induction s using Site.below_induction with
  | h s ih =>
    rw [Site.preorder_eq]
    obtain ⟨-, -, hself⟩ | ⟨-, parts, hparts⟩ := h.inversion
    · rw [hself]
      exact (List.nil_sublist _).cons_cons s
    · rw [hparts.names]
      have hbelow : (parts.flatMap patternIdentifiers).Sublist (parts.flatMap Site.preorder) :=
        List.Sublist.flatMap_right parts fun c hc =>
          ih c (hparts.sublist.subset hc) (hparts.pattern c hc).1
      exact (hbelow.trans (hparts.sublist.flatMap Site.preorder)).cons s

/-- What is collected is a token. -/
lemma leaf_of_mem_patternIdentifiers (h : IsBindingPattern s.node) (hident : ident ∈ patternIdentifiers s) :
    ident.node.children = [] := by
  induction s using Site.below_induction with
  | h s ih =>
    obtain ⟨-, hleaf, hself⟩ | ⟨-, parts, hparts⟩ := h.inversion
    · rw [hself, List.mem_singleton] at hident
      exact hident ▸ hleaf
    · rw [hparts.names, List.mem_flatMap] at hident
      obtain ⟨c, hc, hident⟩ := hident
      exact ih c (hparts.sublist.subset hc) (hparts.pattern c hc).1 hident

/-- **The names of a pattern.** Of a binding pattern exactly the bound names are collected: no identifier that
is in a default value or a key, and every other one. They are collected in the order in which the text has
them, none twice; if the nodes of the pattern are nested, each begins behind the end of those before it. -/
theorem patternIdentifiers_of_isBindingPattern (h : IsBindingPattern s.node) :
    (∀ ident, ident ∈ patternIdentifiers s ↔ IsBoundName s ident) ∧
      (patternIdentifiers s).Sublist s.preorder ∧ ((patternIdentifiers s).map (·.address)).Nodup ∧
      (s.node.IsNested → (patternIdentifiers s).Pairwise (·.node.stop ≤ ·.node.start)) := by
  have hsublist := sublist_preorder_patternIdentifiers h
  have hnodup : ((patternIdentifiers s).map (·.address)).Nodup :=
    (hsublist.map _).nodup s.nodup_preorder
  refine ⟨fun ident => mem_patternIdentifiers_iff_isBoundName h, hsublist, hnodup, fun hnested => ?_⟩
  have hpairwise := (hnested.pairwise_preorder.sublist hsublist).and (List.pairwise_map.mp hnodup)
  refine hpairwise.imp_of_mem fun {a b} ha _ hab => ?_
  obtain ⟨hbelow | hbehind, hne⟩ := hab
  · -- a name is a token, so nothing else is below it
    rw [Site.preorder_of_leaf (leaf_of_mem_patternIdentifiers h ha), List.mem_singleton] at hbelow
    exact absurd (congrArg Site.address hbelow.symm) hne
  · exact hbehind

end collected

/-! ## A pattern of all kinds -/

/-- A token that is no construct. -/
def punctuation (kind : String) (start stop : Nat) : Tree := { kind, start, stop, named := false }

/-- The default value in `c = d`, and the name that it is for. -/
def defaultedName : Tree where
  kind := "assignment_pattern"
  start := 10
  stop := 15
  children := [
    { kind := "identifier", start := 10, stop := 11, field := some "left" }, punctuation "=" 12 13,
    { kind := "identifier", start := 14, stop := 15, field := some "right" }]

/-- The rest element `...e`. -/
def restOfList : Tree where
  kind := "rest_pattern"
  start := 17
  stop := 21
  children := [punctuation "..." 17 20, { kind := "identifier", start := 20, stop := 21 }]

/-- The array `[c = d, ...e]`. -/
def listPattern : Tree where
  kind := "array_pattern"
  start := 9
  stop := 22
  field := some "value"
  children := [punctuation "[" 9 10, defaultedName, punctuation "," 15 16, restOfList, punctuation "]" 21 22]

/-- The key `[b]`. -/
def computedKey : Tree where
  kind := "computed_property_name"
  start := 4
  stop := 7
  field := some "key"
  children := [punctuation "[" 4 5, { kind := "identifier", start := 5, stop := 6 }, punctuation "]" 6 7]

/-- The object `{a, [b]: [c = d, ...e]}`. -/
def mixedPattern : Tree where
  kind := "object_pattern"
  start := 0
  stop := 23
  children := [
    punctuation "\x7b" 0 1, { kind := "shorthand_property_identifier_pattern", start := 1, stop := 2 },
    punctuation "," 2 3,
    { kind := "pair_pattern", start := 4, stop := 22
      children := [computedKey, punctuation ":" 7 8, listPattern] },
    punctuation "\x7d" 22 23]

/-- A group of patterns is a pattern, whatever trivia stand between them. -/
lemma isBindingPattern_of_parts {t : Tree} (parts : List Tree)
    (hkind : t.kind ∈ ["object_pattern", "array_pattern", "formal_parameters", "rest_pattern"])
    (hparts : t.children.filter (fun c => ¬ IsTrivia c) = parts) (hnamed : ∀ c ∈ parts, c.named = true)
    (hpatterns : ∀ c ∈ parts, IsBindingPattern c) : IsBindingPattern t := by
  have hmem : ∀ c ∈ t.children, ¬ IsTrivia c → c ∈ parts := fun c hc hnot => by
    rw [← hparts]
    exact List.mem_filter.mpr ⟨hc, decide_eq_true hnot⟩
  exact .group hkind (fun c hc hnot => hnamed c (hmem c hc hnot)) fun c hc hnot =>
    hpatterns c (hmem c hc hnot)

/-- The list with a hole and a rest is a pattern. -/
lemma isBindingPattern_listPattern : IsBindingPattern listPattern := by
  have hdefault : IsBindingPattern defaultedName :=
    .default (.inl rfl) ⟨rfl, rfl, [], [punctuation "=" 12 13], [], rfl, by decide⟩ (.name (.inl rfl) rfl)
  have hrest : IsBindingPattern restOfList := by
    refine isBindingPattern_of_parts [_] (by decide) rfl (by decide) ?_
    exact List.forall_mem_singleton.mpr (.name (.inl rfl) rfl)
  refine isBindingPattern_of_parts [defaultedName, restOfList] (by decide) rfl (by decide) ?_
  exact List.forall_mem_cons.mpr ⟨hdefault, List.forall_mem_singleton.mpr hrest⟩

/-- The object that holds the list next to a comment is a pattern. -/
lemma isBindingPattern_mixedPattern : IsBindingPattern mixedPattern := by
  refine isBindingPattern_of_parts [_, _] (by decide) rfl (by decide) ?_
  refine List.forall_mem_cons.mpr ⟨.name (.inr rfl) rfl, List.forall_mem_singleton.mpr ?_⟩
  exact .pair rfl ⟨rfl, rfl, [], [punctuation ":" 7 8], [], rfl, by decide⟩ isBindingPattern_listPattern

/-- Of `{a, [b]: [c = d, ...e]}` the names `a`, `c` and `e` are bound. -/
theorem patternIdentifiers_of_isBindingPattern_mixed :
    let s : Site := .root mixedPattern
    IsBindingPattern s.node ∧ s.node.IsNested ∧
      (patternIdentifiers s).map (·.node.start) = [1, 10, 20] ∧
      (∀ ident, ident ∈ patternIdentifiers s ↔ IsBoundName s ident) ∧
      (patternIdentifiers s).Sublist s.preorder ∧ ((patternIdentifiers s).map (·.address)).Nodup ∧
      (patternIdentifiers s).Pairwise (·.node.stop ≤ ·.node.start) := by
  intro s
  have hnested : s.node.IsNested := by decide +kernel
  obtain ⟨hbound, hsublist, hnodup, hbehind⟩ :=
    patternIdentifiers_of_isBindingPattern (s := s) isBindingPattern_mixedPattern
  exact ⟨isBindingPattern_mixedPattern, hnested, by decide +kernel, hbound, hsublist, hnodup,
    hbehind hnested⟩

end Diagnosis.Lint
