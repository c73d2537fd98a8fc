import Diagnosis.Lint.Binding
import Diagnosis.Proofs.Syntax.Site

/-!
# What patterns bind

`Binds` and `Imports` say which identifiers a pattern and an import declare, without an order and
without a walk.

* `mem_patternIdentifiers` and `mem_importIdentifiers`: exactly these are collected.
* `construct?` looks upward: it gives the nearest ancestor that is more than a part of a pattern or
  an import. All identifiers of a pattern have the construct of the pattern
  (`Binds.construct?_eq`), so an identifier tells which construct declares it.
-/

namespace Diagnosis.Lint

open Diagnosis.Syntax Pattern

/-! ## Parts and wholes -/

/-- Nodes that are parts of a construct that declares names: of patterns, of imports and of
statements with several declarations. -/
def partKinds : List String :=
  defaultKinds ++ groupKinds ++
    ["pair_pattern", "variable_declarator", "import_clause", "namespace_import", "named_imports",
      "import_specifier"]

/-- A pattern with a default is a part of a construct. -/
lemma mem_partKinds_of_default {kind : String} (h : kind ∈ defaultKinds) : kind ∈ partKinds :=
  List.mem_append_left _ (List.mem_append_left _ h)

/-- A group is a part of a construct. -/
lemma mem_partKinds_of_group {kind : String} (h : kind ∈ groupKinds) : kind ∈ partKinds :=
  List.mem_append_left _ (List.mem_append_right _ h)

/-- The nearest ancestor that is not a part. -/
def construct? : Site → Option Site
  | .root _ => none
  | .child p _ _ => if partKinds.contains p.kind then construct? p else some p

section construct

variable {p s : Site}

/-- What is in a part of a construct is in the construct that the part is in. -/
lemma construct?_of_part (hp : p.kind ∈ partKinds) (hs : s ∈ p.children) :
    construct? s = construct? p := by
  obtain ⟨i, c, -, rfl⟩ := Site.mem_children.mp hs
  rw [construct?, if_pos (List.contains_iff_mem.mpr hp)]

/-- What is in anything else is in that. -/
lemma construct?_of_whole (hp : p.kind ∉ partKinds) (hs : s ∈ p.children) :
    construct? s = some p := by
  obtain ⟨i, c, -, rfl⟩ := Site.mem_children.mp hs
  rw [construct?, if_neg fun h => hp (List.contains_iff_mem.mp h)]

end construct

/-! ## Patterns -/

/-- Whether a pattern binds an identifier. -/
inductive Binds : Site → Site → Prop
  /-- A name binds itself. -/
  | name {s : Site} : s.kind ∈ nameKinds → Binds s s
  /-- A pattern with a default value binds what stands on the left of it. -/
  | default {s left ident : Site} :
      s.kind ∈ defaultKinds → s.childAt? "left" = some left → Binds left ident → Binds s ident
  /-- A pair binds what its value binds. -/
  | pair {s value ident : Site} :
      s.kind = "pair_pattern" → s.childAt? "value" = some value → Binds value ident → Binds s ident
  /-- A group binds what any of its parts binds. -/
  | group {s part ident : Site} :
      s.kind ∈ groupKinds → part ∈ s.namedChildren → Binds part ident → Binds s ident

section pattern

variable {s ident : Site}

/-- An optional pattern has the names of the pattern, if it is there. -/
lemma mem_patternIdentifiers? {p : Option Site} :
    ident ∈ patternIdentifiers? p ↔ ∃ s, p = some s ∧ ident ∈ patternIdentifiers s := by
  cases p with
  | none => simp [patternIdentifiers?]
  | some s => simp [patternIdentifiers?]

/-- The names in a role are those of the child in the role. -/
lemma patternRole_eq (s : Site) (field : String) (i : Nat) (ts : List Tree) :
    patternRole s field i ts =
      patternIdentifiers? ((s.childrenFrom i ts).find? (·.node.field == some field)) := by
  induction ts generalizing i with
  | nil => rw [patternRole]; rfl
  | cons t ts ih =>
    rw [patternRole, Site.childrenFrom, List.find?_cons, Site.node_child]
    cases h : t.field == some field with
    | true => rfl
    | false => exact ih (i + 1)

/-- The names of a group are those of its named children. -/
lemma patternGroup_eq (s : Site) (i : Nat) (ts : List Tree) :
    patternGroup s i ts =
      ((s.childrenFrom i ts).filter (·.node.named)).flatMap patternIdentifiers := by
  induction ts generalizing i with
  | nil => rw [patternGroup]; rfl
  | cons t ts ih =>
    rw [patternGroup, Site.childrenFrom, List.filter_cons, ih, Site.node_child]
    by_cases h : t.named = true
    · rw [if_pos h, if_pos h, List.flatMap_cons]
      rfl
    · rw [if_neg h, if_neg h, List.nil_append]

/-- What a pattern declares, by the kind of the pattern. -/
lemma patternIdentifiers_eq (s : Site) :
    patternIdentifiers s =
      if nameKinds.contains s.kind then [s]
      else if defaultKinds.contains s.kind then patternIdentifiers? (s.childAt? "left")
      else if s.kind == "pair_pattern" then patternIdentifiers? (s.childAt? "value")
      else if groupKinds.contains s.kind then s.namedChildren.flatMap patternIdentifiers
      else [] := by
  unfold patternIdentifiers Site.childAt? Site.namedChildren Site.children Site.kind
  obtain ⟨kind, start, stop, field, named, missing, faulty, children⟩ := s.node
  rw [patternIn, patternRole_eq, patternRole_eq, patternGroup_eq]
  rfl

/-- The identifiers that a pattern declares are those that it binds. -/
theorem mem_patternIdentifiers : ident ∈ patternIdentifiers s ↔ Binds s ident := by
  constructor
  · intro h
    induction s using Site.below_induction with
    | h s ih =>
      have hbelow : ∀ {c}, c ∈ s.children → ident ∈ patternIdentifiers c → Binds c ident :=
        fun hc hident => ih _ hc hident
      rw [patternIdentifiers_eq] at h
      split at h
      case isTrue hkind =>
        obtain rfl := List.mem_singleton.mp h
        exact .name (List.contains_iff_mem.mp hkind)
      split at h
      case isTrue hkind =>
        obtain ⟨c, hc, hident⟩ := mem_patternIdentifiers?.mp h
        exact .default (List.contains_iff_mem.mp hkind) hc
          (hbelow (Site.mem_of_childAt? hc).1 hident)
      split at h
      case isTrue hkind =>
        obtain ⟨c, hc, hident⟩ := mem_patternIdentifiers?.mp h
        exact .pair (beq_iff_eq.mp hkind) hc (hbelow (Site.mem_of_childAt? hc).1 hident)
      split at h
      case isTrue hkind =>
        obtain ⟨c, hc, hident⟩ := List.mem_flatMap.mp h
        exact .group (List.contains_iff_mem.mp hkind) hc
          (hbelow (Site.mem_namedChildren.mp hc).1 hident)
      case isFalse => simp at h
  · intro h
    induction h with
    | name hkind =>
      rw [patternIdentifiers_eq, if_pos (List.contains_iff_mem.mpr hkind)]
      exact List.mem_singleton.mpr rfl
    | default hkind hc _ ih =>
      have hname := (show ∀ k ∈ defaultKinds, nameKinds.contains k = false by decide) _ hkind
      rw [patternIdentifiers_eq, if_neg (by rw [hname]; decide),
        if_pos (List.contains_iff_mem.mpr hkind)]
      exact mem_patternIdentifiers?.mpr ⟨_, hc, ih⟩
    | pair hkind hc _ ih =>
      rw [patternIdentifiers_eq, hkind, if_neg (by decide), if_neg (by decide), if_pos (by decide)]
      exact mem_patternIdentifiers?.mpr ⟨_, hc, ih⟩
    | group hkind hc _ ih =>
      obtain ⟨hname, hdefault, hpair⟩ := (show ∀ k ∈ groupKinds, nameKinds.contains k = false ∧
        defaultKinds.contains k = false ∧ (k == "pair_pattern") = false by decide) _ hkind
      rw [patternIdentifiers_eq, if_neg (by rw [hname]; decide), if_neg (by rw [hdefault]; decide),
        if_neg (by rw [hpair]; decide), if_pos (List.contains_iff_mem.mpr hkind)]
      exact List.mem_flatMap.mpr ⟨_, hc, ih⟩

/-- A bound identifier is the pattern itself, or it is inside a part of the pattern. -/
lemma Binds.eq_or_below (h : Binds s ident) :
    ident = s ∨ ∃ part : Site, part.kind ∈ partKinds ∧ ident ∈ part.children := by
  induction h with
  | name => exact .inl rfl
  | default hkind hc _ ih =>
    obtain rfl | hbelow := ih
    · exact .inr ⟨_, mem_partKinds_of_default hkind, (Site.mem_of_childAt? hc).1⟩
    · exact .inr hbelow
  | pair hkind hc _ ih =>
    obtain rfl | hbelow := ih
    · exact .inr ⟨_, hkind ▸ by decide, (Site.mem_of_childAt? hc).1⟩
    · exact .inr hbelow
  | group hkind hc _ ih =>
    obtain rfl | hbelow := ih
    · exact .inr ⟨_, mem_partKinds_of_group hkind, (Site.mem_namedChildren.mp hc).1⟩
    · exact .inr hbelow

/-- What a pattern binds is a name. -/
lemma Binds.kind_mem (h : Binds s ident) : ident.kind ∈ nameKinds := by
  induction h with
  | name hkind => exact hkind
  | default _ _ _ ih | pair _ _ _ ih | group _ _ _ ih => exact ih

/-- What a pattern other than a name binds is inside a part. -/
lemma Binds.exists_part (h : Binds s ident) (hs : s.kind ∉ nameKinds) :
    ∃ part : Site, part.kind ∈ partKinds ∧ ident ∈ part.children := by
  obtain rfl | hbelow := h.eq_or_below
  · exact absurd h.kind_mem hs
  · exact hbelow

/-- What a pattern binds has the construct of the pattern. -/
lemma Binds.construct?_eq (h : Binds s ident) : construct? ident = construct? s := by
  induction h with
  | name => rfl
  | default hkind hc _ ih =>
    rw [ih, construct?_of_part (mem_partKinds_of_default hkind) (Site.mem_of_childAt? hc).1]
  | pair hkind hc _ ih =>
    rw [ih, construct?_of_part (hkind ▸ by decide) (Site.mem_of_childAt? hc).1]
  | group hkind hc _ ih =>
    rw [ih, construct?_of_part (mem_partKinds_of_group hkind) (Site.mem_namedChildren.mp hc).1]

/-- What a pattern binds is a node of the tree. -/
lemma Binds.isSite {tree : Tree} (hs : IsSite tree s) (h : Binds s ident) : IsSite tree ident := by
  induction h with
  | name => exact hs
  | default _ hc _ ih => exact ih (hs.of_mem_children (Site.mem_of_childAt? hc).1)
  | pair _ hc _ ih => exact ih (hs.of_mem_children (Site.mem_of_childAt? hc).1)
  | group _ hc _ ih => exact ih (hs.of_mem_children (Site.mem_namedChildren.mp hc).1)

end pattern

/-! ## Imports -/

/-- Whether an import binds an identifier. -/
inductive Imports (s : Site) : Site → Prop
  /-- The default import. -/
  | default {clause ident : Site} :
      clause ∈ s.namedChildren → clause.kind = "import_clause" → ident ∈ clause.namedChildren →
        ident.kind = "identifier" → Imports s ident
  /-- The import of all names under one. -/
  | all {clause part ident : Site} :
      clause ∈ s.namedChildren → clause.kind = "import_clause" → part ∈ clause.namedChildren →
        part.kind = "namespace_import" → ident ∈ part.namedChildren → ident.kind = "identifier" →
        Imports s ident
  /-- One item of an import list, by its local name. -/
  | item {clause part item ident : Site} :
      clause ∈ s.namedChildren → clause.kind = "import_clause" → part ∈ clause.namedChildren →
        part.kind = "named_imports" → item ∈ part.namedChildren →
        item.kind = "import_specifier" →
        (item.childAt? "alias" <|> item.childAt? "name") = some ident → ident.kind = "identifier" →
        Imports s ident

section imports

variable {s ident : Site}

/-- An import binds its alias, or else its own name. -/
lemma specifierName?_eq_some_iff :
    specifierName? s = some ident ↔ s.kind = "import_specifier" ∧
      (s.childAt? "alias" <|> s.childAt? "name") = some ident ∧ ident.kind = "identifier" := by
  unfold specifierName?
  by_cases hkind : s.kind = "import_specifier"
  · rw [if_pos (beq_iff_eq.mpr hkind)]
    cases h : (s.childAt? "alias" <|> s.childAt? "name") with
    | none => simp
    | some name =>
      dsimp only
      split
      case isTrue hname =>
        constructor
        · rintro ⟨⟩
          exact ⟨hkind, rfl, beq_iff_eq.mp hname⟩
        · rintro ⟨-, h, -⟩
          exact h
      case isFalse hname =>
        constructor
        · rintro ⟨⟩
        · rintro ⟨-, h, hident⟩
          obtain rfl := Option.some.inj h
          exact absurd (beq_iff_eq.mpr hident) hname
  · rw [if_neg (by simpa using hkind)]
    simp [hkind]

/-- The local names of an import are those that it binds. -/
theorem mem_importIdentifiers : ident ∈ importIdentifiers s ↔ Imports s ident := by
  unfold importIdentifiers
  constructor
  · intro h
    obtain ⟨clause, hclause, h⟩ := List.mem_flatMap.mp h
    obtain ⟨hclause, hkind⟩ := List.mem_filter.mp hclause
    obtain ⟨part, hpart, h⟩ := List.mem_flatMap.mp h
    unfold importPartIdentifiers at h
    split at h
    case isTrue hident =>
      obtain rfl := List.mem_singleton.mp h
      exact .default hclause (beq_iff_eq.mp hkind) hpart (beq_iff_eq.mp hident)
    split at h
    case isTrue hall =>
      obtain ⟨hmem, hident⟩ := List.mem_filter.mp h
      exact .all hclause (beq_iff_eq.mp hkind) hpart (beq_iff_eq.mp hall) hmem
        (beq_iff_eq.mp hident)
    split at h
    case isTrue hnamed =>
      obtain ⟨item, hitem, h⟩ := List.mem_filterMap.mp h
      obtain ⟨hspecifier, hname, hident⟩ := specifierName?_eq_some_iff.mp h
      exact .item hclause (beq_iff_eq.mp hkind) hpart (beq_iff_eq.mp hnamed) hitem hspecifier
        hname hident
    case isFalse => simp at h
  · intro h
    have hmem : ∀ {clause part}, clause ∈ s.namedChildren → clause.kind = "import_clause" →
        part ∈ clause.namedChildren → ident ∈ importPartIdentifiers part →
        ident ∈ (s.namedChildren.filter (·.kind == "import_clause")).flatMap fun clause =>
          clause.namedChildren.flatMap importPartIdentifiers := by
      intro clause part hclause hkind hpart hident
      exact List.mem_flatMap.mpr ⟨clause, List.mem_filter.mpr ⟨hclause, beq_iff_eq.mpr hkind⟩,
        List.mem_flatMap.mpr ⟨part, hpart, hident⟩⟩
    cases h with
    | default hclause hkind hident hname =>
      refine hmem hclause hkind hident ?_
      unfold importPartIdentifiers
      rw [if_pos (beq_iff_eq.mpr hname)]
      exact List.mem_singleton.mpr rfl
    | all hclause hkind hpart hall hident hname =>
      refine hmem hclause hkind hpart ?_
      unfold importPartIdentifiers
      rw [hall, if_neg (by decide), if_pos (by decide)]
      exact List.mem_filter.mpr ⟨hident, beq_iff_eq.mpr hname⟩
    | item hclause hkind hpart hnamed hitem hspecifier hname hident =>
      refine hmem hclause hkind hpart ?_
      unfold importPartIdentifiers
      rw [hnamed, if_neg (by decide), if_neg (by decide), if_pos (by decide)]
      exact List.mem_filterMap.mpr
        ⟨_, hitem, specifierName?_eq_some_iff.mpr ⟨hspecifier, hname, hident⟩⟩

/-- What an import binds has the import as its construct. -/
lemma Imports.construct?_eq (h : Imports s ident) (hs : s.kind = "import_statement") :
    construct? ident = some s := by
  have hclause : ∀ {clause}, clause ∈ s.namedChildren → construct? clause = some s :=
    fun hclause => construct?_of_whole (by rw [hs]; decide) (Site.mem_namedChildren.mp hclause).1
  have hpart : ∀ {clause part : Site}, clause.kind ∈ partKinds → part ∈ clause.namedChildren →
      construct? clause = some s → construct? part = some s :=
    fun hkind hpart hclause =>
      (construct?_of_part hkind (Site.mem_namedChildren.mp hpart).1).trans hclause
  cases h with
  | default hc hkind hident => exact hpart (hkind ▸ by decide) hident (hclause hc)
  | all hc hkind hp hall hident =>
    exact hpart (hall ▸ by decide) hident (hpart (hkind ▸ by decide) hp (hclause hc))
  | item hc hkind hp hnamed hitem hspecifier hname =>
    rw [← hpart (hnamed ▸ by decide) hitem (hpart (hkind ▸ by decide) hp (hclause hc))]
    exact construct?_of_part (hspecifier ▸ by decide) (Site.mem_of_childAt?_orElse hname).1

/-- What is imported is a node of the tree. -/
lemma Imports.isSite {tree : Tree} (hs : IsSite tree s) (h : Imports s ident) :
    IsSite tree ident := by
  have hpart : ∀ {part below : Site}, IsSite tree part → below ∈ part.namedChildren →
      IsSite tree below :=
    fun hpart hbelow => hpart.of_mem_children (Site.mem_namedChildren.mp hbelow).1
  cases h with
  | default hc _ hident => exact hpart (hpart hs hc) hident
  | all hc _ hp _ hident => exact hpart (hpart (hpart hs hc) hp) hident
  | item hc _ hp _ hitem _ hname =>
    have hsite := hpart (hpart (hpart hs hc) hp) hitem
    exact hsite.of_mem_children (Site.mem_of_childAt?_orElse hname).1

end imports

end Diagnosis.Lint
