import Diagnosis.Lint.Scope
import Diagnosis.Proofs.Lint.Pattern

/-!
# What declares a name, and where

`DeclaresAt` says which construct declares which identifier in which scope: one case for each form
of declaration. Where a scope is looked for outside the construct, `Encloses` says which one it is:
the nearest enclosing node of certain kinds, else the root.

* `declaresAt_of_mem` and `exists_mem_of_declaresAt`: these are exactly the declarations that are
  collected.
* `Declares.scope_unique`: an identifier is declared in one scope only. The construct that declares
  it is found by looking upward (`construct?`), and within a construct only the name and the
  parameters of a function have different scopes.
-/

namespace Diagnosis.Lint

open Diagnosis.Syntax Pattern

/-! ## The scope of a declaration -/

/-- Whether a scope is the nearest that encloses a site, of those of certain kinds; the root encloses
everything. -/
def Encloses (tree : Tree) (kinds : List String) (s scope : Site) : Prop :=
  s.IsNearest (·.kind ∈ kinds) scope ∨ (∀ a ∈ s.ancestors, a.kind ∉ kinds) ∧ scope = .root tree

section encloses

variable {tree : Tree} {kinds : List String} {s scope : Site}

/-- What encloses a child is its parent, if that is of the kind, or what encloses the parent. -/
lemma encloses_child {p : Site} {i : Nat} {c : Tree} :
    Encloses tree kinds (.child p i c) scope ↔
      (p.kind ∈ kinds ∧ scope = p) ∨ (p.kind ∉ kinds ∧ Encloses tree kinds p scope) := by
  unfold Encloses
  rw [Site.isNearest_child, Site.ancestors, List.forall_mem_cons]
  tauto

/-- The enclosing scope is found by looking upward. -/
lemma encloses_iff (hs : IsSite tree s) : Encloses tree kinds s scope ↔ scope = s.enclosing kinds := by
  induction hs with
  | root =>
    unfold Encloses
    simp [Site.not_isNearest_root, Site.ancestors, Site.enclosing]
  | @child p i c _ _ ih =>
    rw [encloses_child, Site.enclosing, ih]
    by_cases hp : p.kind ∈ kinds
    · simp [hp]
    · simp [hp]

end encloses

/-! ## Declarations -/

/-- Whether the construct `s` declares an identifier in a scope, and whether it gives it a value. -/
inductive DeclaresAt (tree : Tree) (s : Site) : Site → Site → Bool → Prop
  /-- A `var` declares in the nearest function. -/
  | variable {declarator pattern ident scope : Site} :
      s.kind = "variable_declaration" → declarator ∈ s.namedChildren →
        declarator.kind = "variable_declarator" → declarator.childAt? "name" = some pattern →
        Binds pattern ident → Encloses tree functionKinds s scope →
        DeclaresAt tree s scope ident (declarator.childAt? "value").isSome
  /-- A `let` or `const` declares in the nearest function or block. -/
  | lexical {declarator pattern ident scope : Site} :
      s.kind = "lexical_declaration" → declarator ∈ s.namedChildren →
        declarator.kind = "variable_declarator" → declarator.childAt? "name" = some pattern →
        Binds pattern ident → Encloses tree lexicalKinds s scope →
        DeclaresAt tree s scope ident (declarator.childAt? "value").isSome
  /-- So does the declaration of a function or class. -/
  | named {ident scope : Site} :
      s.kind ∈ namedDeclarationKinds → s.childAt? "name" = some ident →
        Encloses tree lexicalKinds s scope → DeclaresAt tree s scope ident false
  /-- A function or class expression declares its name in itself. -/
  | self {ident : Site} :
      s.kind ∈ selfNamingKinds → s.childAt? "name" = some ident → DeclaresAt tree s s ident false
  /-- A `catch` clause declares its parameter in itself. -/
  | caught {pattern ident : Site} :
      s.kind = "catch_clause" → s.childAt? "parameter" = some pattern → Binds pattern ident →
        DeclaresAt tree s s ident false
  /-- A `var` in the head of a loop declares in the nearest function. -/
  | loopVariable {word pattern ident scope : Site} :
      s.kind = "for_in_statement" → s.childAt? "kind" = some word → word.kind = "var" →
        s.childAt? "left" = some pattern → Binds pattern ident →
        Encloses tree functionKinds s scope → DeclaresAt tree s scope ident true
  /-- Any other declaration in the head of a loop declares in the loop. -/
  | loop {word pattern ident : Site} :
      s.kind = "for_in_statement" → s.childAt? "kind" = some word → word.kind ≠ "var" →
        s.childAt? "left" = some pattern → Binds pattern ident → DeclaresAt tree s s ident true
  /-- An import declares in the root. -/
  | imported {ident : Site} :
      s.kind = "import_statement" → Imports s ident → DeclaresAt tree s (.root tree) ident false
  /-- A function declares its parameters in itself. -/
  | parameter {pattern ident : Site} :
      s.kind ∈ functionKinds →
        (s.childAt? "parameters" <|> s.childAt? "parameter") = some pattern → Binds pattern ident →
        DeclaresAt tree s s ident false

/-- Constructs that declare names. -/
def declaringKinds : List String :=
  ["variable_declaration", "lexical_declaration", "catch_clause", "for_in_statement", "import_statement"] ++
    (namedDeclarationKinds ++ (selfNamingKinds ++ functionKinds))

/-- What declares something is of a kind that declares. -/
lemma DeclaresAt.kind_mem {tree : Tree} {s scope ident : Site} {valued : Bool}
    (h : DeclaresAt tree s scope ident valued) : s.kind ∈ declaringKinds := by
  cases h with
  | «variable» hkind | lexical hkind | caught hkind | loopVariable hkind | loop hkind | imported hkind =>
    rw [hkind]
    decide
  | named hkind => exact List.mem_append_right _ (List.mem_append_left _ hkind)
  | self hkind => exact List.mem_append_right _ (List.mem_append_right _ (List.mem_append_left _ hkind))
  | parameter hkind =>
    exact List.mem_append_right _ (List.mem_append_right _ (List.mem_append_right _ hkind))

/-- Whether a tree declares an identifier in a scope, and whether it gives it a value. -/
def Declares (tree : Tree) (scope ident : Site) (valued : Bool) : Prop :=
  ∃ s, IsSite tree s ∧ DeclaresAt tree s scope ident valued

section declarations

variable {src : Source} {tree : Tree} {s : Site} {d : Declaration}

/-- The declarations of an optional pattern are those of what it binds. -/
lemma mem_map_patternIdentifiers? {p : Option Site} {f : Site → Declaration} :
    d ∈ (patternIdentifiers? p).map f ↔
      ∃ pattern ident, p = some pattern ∧ Binds pattern ident ∧ d = f ident := by
  constructor
  · intro h
    obtain ⟨ident, hident, rfl⟩ := List.mem_map.mp h
    obtain ⟨pattern, hpattern, hident⟩ := mem_patternIdentifiers?.mp hident
    exact ⟨pattern, ident, hpattern, mem_patternIdentifiers.mp hident, rfl⟩
  · rintro ⟨pattern, ident, hpattern, hident, rfl⟩
    exact List.mem_map.mpr ⟨ident,
      mem_patternIdentifiers?.mpr ⟨pattern, hpattern, mem_patternIdentifiers.mpr hident⟩, rfl⟩

/-- The declaration of an optional child is that of the child. -/
lemma mem_map_childAt? {field : String} {f : Site → Declaration} :
    d ∈ (s.childAt? field).toList.map f ↔ ∃ ident, s.childAt? field = some ident ∧ d = f ident := by
  constructor
  · intro h
    obtain ⟨ident, hident, rfl⟩ := List.mem_map.mp h
    exact ⟨ident, Option.mem_toList.mp hident, rfl⟩
  · rintro ⟨ident, hident, rfl⟩
    exact List.mem_map.mpr ⟨ident, Option.mem_toList.mpr hident, rfl⟩

/-- What is listed for a statement of variables is declared by it. -/
lemma declaresAt_of_mem_variable (hs : IsSite tree s)
    (hkind : s.kind = "variable_declaration" ∨ s.kind = "lexical_declaration")
    (hd : d ∈ variableDeclarations src s) :
    DeclaresAt tree s d.scope d.ident d.hasValue ∧ d.name = src.text d.ident.node := by
  obtain ⟨declarator, hdeclarator, hd⟩ := List.mem_flatMap.mp hd
  obtain ⟨hmem, hdeclarator⟩ := List.mem_filter.mp hdeclarator
  have hdeclarator := beq_iff_eq.mp hdeclarator
  obtain ⟨pattern, ident, hpattern, hbinds, rfl⟩ := mem_map_patternIdentifiers?.mp hd
  refine ⟨?_, rfl⟩
  obtain hkind | hkind := hkind
  · refine .variable hkind hmem hdeclarator hpattern hbinds ((encloses_iff hs).mpr ?_)
    rw [hkind]
    rfl
  · refine .lexical hkind hmem hdeclarator hpattern hbinds ((encloses_iff hs).mpr ?_)
    rw [hkind]
    rfl

/-- What is listed for a loop is declared by it. -/
lemma declaresAt_of_mem_loop (hs : IsSite tree s) (hkind : s.kind = "for_in_statement")
    (hd : d ∈ loopDeclarations src s) :
    DeclaresAt tree s d.scope d.ident d.hasValue ∧ d.name = src.text d.ident.node := by
  unfold loopDeclarations at hd
  cases hword : s.childAt? "kind" with
  | none => simp [hword] at hd
  | some word =>
    simp only [hword] at hd
    obtain ⟨pattern, ident, hpattern, hbinds, rfl⟩ := mem_map_patternIdentifiers?.mp hd
    refine ⟨?_, rfl⟩
    by_cases hvar : word.kind = "var"
    · refine .loopVariable hkind hword hvar hpattern hbinds ((encloses_iff hs).mpr ?_)
      rw [hvar]
      rfl
    · have hscope : (if word.kind == "var" then s.enclosing functionKinds else s) = s :=
        if_neg (by simpa using hvar)
      rw [hscope]
      exact .loop hkind hword hvar hpattern hbinds

/-- The root is found from everywhere in the tree. -/
lemma rootOf_eq (hs : IsSite tree s) : rootOf s = .root tree := by
  induction hs with
  | root => rfl
  | child _ _ ih => exact ih

/-- What is collected is declared. -/
theorem declaresAt_of_mem (hs : IsSite tree s) (hd : d ∈ declarationsAt src s) :
    DeclaresAt tree s d.scope d.ident d.hasValue ∧ d.name = src.text d.ident.node := by
  obtain hd | hd := List.mem_append.mp hd
  · unfold ownDeclarations at hd
    split at hd
    case isTrue hkind =>
      rw [Bool.or_eq_true, beq_iff_eq, beq_iff_eq] at hkind
      exact declaresAt_of_mem_variable hs hkind hd
    split at hd
    case isTrue hkind =>
      obtain ⟨ident, hident, rfl⟩ := mem_map_childAt?.mp hd
      exact ⟨.named (List.contains_iff_mem.mp hkind) hident ((encloses_iff hs).mpr rfl), rfl⟩
    split at hd
    case isTrue hkind =>
      obtain ⟨ident, hident, rfl⟩ := mem_map_childAt?.mp hd
      exact ⟨.self (List.contains_iff_mem.mp hkind) hident, rfl⟩
    split at hd
    case isTrue hkind =>
      obtain ⟨pattern, ident, hpattern, hbinds, rfl⟩ := mem_map_patternIdentifiers?.mp hd
      exact ⟨.caught (beq_iff_eq.mp hkind) hpattern hbinds, rfl⟩
    split at hd
    case isTrue hkind => exact declaresAt_of_mem_loop hs (beq_iff_eq.mp hkind) hd
    split at hd
    case isTrue hkind =>
      obtain ⟨ident, hident, rfl⟩ := List.mem_map.mp hd
      refine ⟨?_, rfl⟩
      rw [rootOf_eq hs]
      exact .imported (beq_iff_eq.mp hkind) (mem_importIdentifiers.mp hident)
    case isFalse => simp at hd
  · unfold parameterDeclarations at hd
    split at hd
    case isTrue hkind =>
      obtain ⟨pattern, ident, hpattern, hbinds, rfl⟩ := mem_map_patternIdentifiers?.mp hd
      exact ⟨.parameter (List.contains_iff_mem.mp hkind) hpattern hbinds, rfl⟩
    case isFalse => simp at hd

/-- What a statement of variables binds is listed for it. -/
lemma exists_mem_variableDeclarations (src : Source) {declarator pattern ident : Site}
    (hkind : s.kind = "variable_declaration" ∨ s.kind = "lexical_declaration")
    (hmem : declarator ∈ s.namedChildren) (hdeclarator : declarator.kind = "variable_declarator")
    (hpattern : declarator.childAt? "name" = some pattern) (hbinds : Binds pattern ident) :
    ∃ d ∈ declarationsAt src s,
      d.scope = s.enclosing
          (if s.kind == "variable_declaration" then functionKinds else lexicalKinds) ∧
        d.ident = ident ∧ d.hasValue = (declarator.childAt? "value").isSome := by
  have hown : ownDeclarations src s = variableDeclarations src s := by
    unfold ownDeclarations
    exact if_pos (by simpa using hkind)
  refine ⟨{ Declaration.of src (s.enclosing
        (if s.kind == "variable_declaration" then functionKinds else lexicalKinds)) ident with
      hasValue := (declarator.childAt? "value").isSome
      exported := s.isBelow "export_statement" }, List.mem_append_left _ ?_, rfl, rfl, rfl⟩
  rw [hown]
  exact List.mem_flatMap.mpr ⟨declarator, List.mem_filter.mpr ⟨hmem, beq_iff_eq.mpr hdeclarator⟩,
    mem_map_patternIdentifiers?.mpr ⟨pattern, ident, hpattern, hbinds, rfl⟩⟩

/-- What a loop binds is listed for it. -/
lemma exists_mem_loopDeclarations (src : Source) {word pattern ident : Site}
    (hkind : s.kind = "for_in_statement") (hword : s.childAt? "kind" = some word)
    (hpattern : s.childAt? "left" = some pattern) (hbinds : Binds pattern ident) :
    ∃ d ∈ declarationsAt src s,
      d.scope = (if word.kind == "var" then s.enclosing functionKinds else s) ∧
        d.ident = ident ∧ d.hasValue = true := by
  have hown : ownDeclarations src s = loopDeclarations src s := by
    unfold ownDeclarations
    rw [hkind]
    rfl
  refine ⟨{ Declaration.of src (if word.kind == "var" then s.enclosing functionKinds else s) ident
    with hasValue := true }, List.mem_append_left _ ?_, rfl, rfl, rfl⟩
  rw [hown, loopDeclarations, hword]
  exact mem_map_patternIdentifiers?.mpr ⟨pattern, ident, hpattern, hbinds, rfl⟩

/-- What a function or class expression declares besides parameters is its name, in itself. -/
lemma ownDeclarations_of_self (src : Source) (hs : s.kind ∈ selfNamingKinds) :
    ownDeclarations src s = (s.childAt? "name").toList.map fun name =>
      { Declaration.of src s name with isSelf := true } := by
  obtain ⟨hvariable, hnamed⟩ := (show ∀ kind ∈ selfNamingKinds, (kind == "variable_declaration" ||
    kind == "lexical_declaration") = false ∧ namedDeclarationKinds.contains kind = false
    by decide) _ hs
  rw [ownDeclarations, hvariable, hnamed, if_neg (by decide), if_neg (by decide),
    if_pos (List.contains_iff_mem.mpr hs)]

/-- What is declared is collected. -/
theorem exists_mem_of_declaresAt (src : Source) {scope ident : Site} {valued : Bool}
    (hs : IsSite tree s) (h : DeclaresAt tree s scope ident valued) :
    ∃ d ∈ declarationsAt src s, d.scope = scope ∧ d.ident = ident ∧ d.hasValue = valued := by
  cases h with
  | «variable» hkind hmem hdeclarator hpattern hbinds hscope =>
    rw [(encloses_iff hs).mp hscope]
    have hd := exists_mem_variableDeclarations src (.inl hkind) hmem hdeclarator hpattern hbinds
    rwa [hkind] at hd
  | lexical hkind hmem hdeclarator hpattern hbinds hscope =>
    rw [(encloses_iff hs).mp hscope]
    have hd := exists_mem_variableDeclarations src (.inr hkind) hmem hdeclarator hpattern hbinds
    rwa [hkind] at hd
  | named hkind hname hscope =>
    rw [(encloses_iff hs).mp hscope]
    refine ⟨{ Declaration.of src (s.enclosing lexicalKinds) ident with
      exported := s.isBelow "export_statement" }, List.mem_append_left _ ?_, rfl, rfl, rfl⟩
    have hvariable := (show ∀ kind ∈ namedDeclarationKinds, (kind == "variable_declaration" ||
      kind == "lexical_declaration") = false by decide) _ hkind
    rw [ownDeclarations, hvariable, if_neg (by decide), if_pos (List.contains_iff_mem.mpr hkind)]
    exact mem_map_childAt?.mpr ⟨ident, hname, rfl⟩
  | self hkind hname =>
    refine ⟨{ Declaration.of src s ident with isSelf := true }, List.mem_append_left _ ?_, rfl, rfl,
      rfl⟩
    rw [ownDeclarations_of_self src hkind]
    exact mem_map_childAt?.mpr ⟨ident, hname, rfl⟩
  | caught hkind hpattern hbinds =>
    refine ⟨Declaration.of src s ident, List.mem_append_left _ ?_, rfl, rfl, rfl⟩
    rw [ownDeclarations, hkind, if_neg (by decide), if_neg (by decide), if_neg (by decide),
      if_pos (by decide)]
    exact mem_map_patternIdentifiers?.mpr ⟨_, ident, hpattern, hbinds, rfl⟩
  | loopVariable hkind hword hvar hpattern hbinds hscope =>
    rw [(encloses_iff hs).mp hscope]
    have hd := exists_mem_loopDeclarations src hkind hword hpattern hbinds
    rwa [hvar] at hd
  | loop hkind hword hvar hpattern hbinds =>
    have hd := exists_mem_loopDeclarations src hkind hword hpattern hbinds
    rwa [if_neg (by simpa using hvar)] at hd
  | imported hkind himports =>
    refine ⟨Declaration.of src (.root tree) ident, List.mem_append_left _ ?_, rfl, rfl, rfl⟩
    rw [ownDeclarations, hkind, if_neg (by decide), if_neg (by decide), if_neg (by decide),
      if_neg (by decide), if_neg (by decide), if_pos (by decide), rootOf_eq hs]
    exact List.mem_map.mpr ⟨ident, mem_importIdentifiers.mpr himports, rfl⟩
  | parameter hkind hpattern hbinds =>
    refine ⟨Declaration.of src s ident, List.mem_append_right _ ?_, rfl, rfl, rfl⟩
    rw [parameterDeclarations, if_pos (List.contains_iff_mem.mpr hkind)]
    exact mem_map_patternIdentifiers?.mpr ⟨_, ident, hpattern, hbinds, rfl⟩

end declarations

/-! ## An identifier is declared in one scope -/

section unique

variable {tree : Tree} {s s' scope scope' ident : Site} {valued valued' : Bool}

/-- The construct that declares an identifier is the nearest ancestor of the identifier that is not
a part. -/
lemma DeclaresAt.construct?_eq (h : DeclaresAt tree s scope ident valued) :
    construct? ident = some s := by
  have hdeclarator : ∀ {declarator pattern : Site}, s.kind ∉ partKinds →
      declarator ∈ s.namedChildren → declarator.kind = "variable_declarator" →
      declarator.childAt? "name" = some pattern → Binds pattern ident →
      construct? ident = some s := by
    intro declarator pattern hkind hmem hdeclarator hpattern hbinds
    rw [hbinds.construct?_eq, construct?_of_part (hdeclarator ▸ by decide)
      (Site.mem_of_childAt? hpattern).1]
    exact construct?_of_whole hkind (Site.mem_namedChildren.mp hmem).1
  have hchild : ∀ {pattern : Site}, s.kind ∉ partKinds → pattern ∈ s.children →
      Binds pattern ident → construct? ident = some s := by
    intro pattern hkind hmem hbinds
    rw [hbinds.construct?_eq]
    exact construct?_of_whole hkind hmem
  cases h with
  | «variable» hkind hmem hdecl hpattern hbinds =>
    exact hdeclarator (hkind ▸ by decide) hmem hdecl hpattern hbinds
  | lexical hkind hmem hdecl hpattern hbinds =>
    exact hdeclarator (hkind ▸ by decide) hmem hdecl hpattern hbinds
  | named hkind hname =>
    have hwhole := (show ∀ kind ∈ namedDeclarationKinds, kind ∉ partKinds by decide) _ hkind
    exact construct?_of_whole hwhole (Site.mem_of_childAt? hname).1
  | self hkind hname =>
    have hwhole := (show ∀ kind ∈ selfNamingKinds, kind ∉ partKinds by decide) _ hkind
    exact construct?_of_whole hwhole (Site.mem_of_childAt? hname).1
  | caught hkind hpattern hbinds =>
    exact hchild (hkind ▸ by decide) (Site.mem_of_childAt? hpattern).1 hbinds
  | loopVariable hkind _ _ hpattern hbinds =>
    exact hchild (hkind ▸ by decide) (Site.mem_of_childAt? hpattern).1 hbinds
  | loop hkind _ _ hpattern hbinds =>
    exact hchild (hkind ▸ by decide) (Site.mem_of_childAt? hpattern).1 hbinds
  | imported hkind himports => exact himports.construct?_eq hkind
  | parameter hkind hpattern hbinds =>
    have hwhole := (show ∀ kind ∈ functionKinds, kind ∉ partKinds by decide) _ hkind
    exact hchild hwhole (Site.mem_of_childAt?_orElse hpattern).1 hbinds

/-- Looking upward from an identifier that is declared, one finds a construct that declares names. -/
lemma Declares.kind_mem {p : Site} (h : Declares tree scope ident valued) (hp : construct? ident = some p) :
    p.kind ∈ declaringKinds := by
  obtain ⟨s, -, h⟩ := h
  obtain rfl := Option.some.inj (h.construct?_eq.symm.trans hp)
  exact h.kind_mem

/-- The scope of what a construct declares, its parameters apart. -/
def ownScope (s : Site) : Site :=
  if s.kind = "variable_declaration" then s.enclosing functionKinds
  else if s.kind = "lexical_declaration" ∨ s.kind ∈ namedDeclarationKinds then
    s.enclosing lexicalKinds
  else if s.kind = "for_in_statement" then
    if (s.childAt? "kind").map (·.kind) = some "var" then s.enclosing functionKinds else s
  else if s.kind = "import_statement" then rootOf s
  else s

/-- A construct declares an identifier in its own scope, or the identifier is one of its parameters.
A function declares nothing but its name and its parameters. -/
lemma DeclaresAt.own_or_parameter (hs : IsSite tree s) (h : DeclaresAt tree s scope ident valued) :
    (scope = ownScope s ∧ (s.kind ∈ functionKinds → s.childAt? "name" = some ident)) ∨
      (scope = s ∧ s.kind ∈ functionKinds ∧ ∃ pattern,
        (s.childAt? "parameters" <|> s.childAt? "parameter") = some pattern ∧
          Binds pattern ident) := by
  unfold ownScope
  cases h with
  | «variable» hkind _ _ _ _ hscope =>
    rw [(encloses_iff hs).mp hscope, hkind, if_pos rfl]
    exact .inl ⟨rfl, fun h => absurd h (by decide)⟩
  | lexical hkind _ _ _ _ hscope =>
    rw [(encloses_iff hs).mp hscope, hkind, if_neg (by decide), if_pos (by decide)]
    exact .inl ⟨rfl, fun h => absurd h (by decide)⟩
  | named hkind hname hscope =>
    have hvariable := (show ∀ kind ∈ namedDeclarationKinds, kind ≠ "variable_declaration"
      by decide) _ hkind
    rw [(encloses_iff hs).mp hscope, if_neg hvariable, if_pos (.inr hkind)]
    exact .inl ⟨rfl, fun _ => hname⟩
  | self hkind hname =>
    obtain ⟨hvariable, hlexical, hloop, himport⟩ := (show ∀ kind ∈ selfNamingKinds,
      kind ≠ "variable_declaration" ∧ ¬ (kind = "lexical_declaration" ∨
        kind ∈ namedDeclarationKinds) ∧ kind ≠ "for_in_statement" ∧ kind ≠ "import_statement"
      by decide) _ hkind
    rw [if_neg hvariable, if_neg hlexical, if_neg hloop, if_neg himport]
    exact .inl ⟨rfl, fun _ => hname⟩
  | caught hkind =>
    rw [hkind, if_neg (by decide), if_neg (by decide), if_neg (by decide), if_neg (by decide)]
    exact .inl ⟨rfl, fun h => absurd h (by decide)⟩
  | loopVariable hkind hword hvar _ _ hscope =>
    rw [(encloses_iff hs).mp hscope, hkind, if_neg (by decide), if_neg (by decide),
      if_pos (by decide), hword, if_pos (by rw [Option.map_some, hvar])]
    exact .inl ⟨rfl, fun h => absurd h (by decide)⟩
  | loop hkind hword hvar =>
    rw [hkind, if_neg (by decide), if_neg (by decide), if_pos (by decide), hword,
      if_neg (by simpa using hvar)]
    exact .inl ⟨rfl, fun h => absurd h (by decide)⟩
  | imported hkind =>
    rw [hkind, if_neg (by decide), if_neg (by decide), if_neg (by decide), if_pos (by decide),
      rootOf_eq hs]
    exact .inl ⟨rfl, fun h => absurd h (by decide)⟩
  | parameter hkind hpattern hbinds => exact .inr ⟨rfl, hkind, _, hpattern, hbinds⟩

/-- The name of a function is not one of its parameters. -/
lemma Binds.ne_name {pattern : Site} (hs : s.kind ∈ functionKinds)
    (hpattern : (s.childAt? "parameters" <|> s.childAt? "parameter") = some pattern)
    (hbinds : Binds pattern ident) : s.childAt? "name" ≠ some ident := by
  intro hname
  obtain ⟨hchild, hfield⟩ := Site.mem_of_childAt? hname
  obtain rfl | ⟨part, hpart, hbelow⟩ := hbinds.eq_or_below
  · obtain ⟨-, h | h⟩ := Site.mem_of_childAt?_orElse hpattern
    · rw [hfield] at h
      exact absurd h (by decide)
    · rw [hfield] at h
      exact absurd h (by decide)
  · -- the parent of the identifier would be both the function and a part of a pattern
    obtain ⟨i, c, -, rfl⟩ := Site.mem_children.mp hchild
    obtain ⟨j, c', -, heq⟩ := Site.mem_children.mp hbelow
    obtain ⟨rfl, -, -⟩ := Site.child.inj heq
    exact (show ∀ kind ∈ functionKinds, kind ∉ partKinds by decide) _ hs hpart

/-- **An identifier is declared in one scope only.** -/
theorem Declares.scope_unique (h : Declares tree scope ident valued)
    (h' : Declares tree scope' ident valued') : scope = scope' := by
  obtain ⟨s, hs, h⟩ := h
  obtain ⟨s', -, h'⟩ := h'
  have hsame : s = s' := Option.some.inj (h.construct?_eq.symm.trans h'.construct?_eq)
  rw [← hsame] at h'
  obtain ⟨hscope, hname⟩ | ⟨hscope, hkind, pattern, hpattern, hbinds⟩ := h.own_or_parameter hs
  · obtain ⟨hscope', -⟩ | ⟨-, hkind, pattern, hpattern, hbinds⟩ := h'.own_or_parameter hs
    · rw [hscope, hscope']
    · exact absurd (hname hkind) (hbinds.ne_name hkind hpattern)
  · obtain ⟨-, hname⟩ | ⟨hscope', -⟩ := h'.own_or_parameter hs
    · exact absurd (hname hkind) (hbinds.ne_name hkind hpattern)
    · rw [hscope, hscope']

end unique

/-! ## Sites of declarations -/

section sites

variable {tree : Tree} {s scope ident : Site} {valued : Bool}

/-- What encloses a node of the tree is one. -/
lemma Encloses.isSite {kinds : List String} (hs : IsSite tree s)
    (h : Encloses tree kinds s scope) : IsSite tree scope := by
  obtain h | ⟨-, rfl⟩ := h
  · exact hs.of_mem_ancestors h.mem_ancestors
  · exact .root

/-- What is declared at a node of the tree, and where, are nodes of it. -/
lemma DeclaresAt.isSite (hs : IsSite tree s) (h : DeclaresAt tree s scope ident valued) :
    IsSite tree scope ∧ IsSite tree ident := by
  have hchild : ∀ {field child}, s.childAt? field = some child → IsSite tree child :=
    fun hc => hs.of_mem_children (Site.mem_of_childAt? hc).1
  have hdeclarator : ∀ {declarator pattern : Site}, declarator ∈ s.namedChildren →
      declarator.childAt? "name" = some pattern → Binds pattern ident → IsSite tree ident := by
    intro declarator pattern hmem hpattern hbinds
    have hsite := hs.of_mem_children (Site.mem_namedChildren.mp hmem).1
    exact hbinds.isSite (hsite.of_mem_children (Site.mem_of_childAt? hpattern).1)
  cases h with
  | «variable» _ hmem _ hpattern hbinds hscope =>
    exact ⟨hscope.isSite hs, hdeclarator hmem hpattern hbinds⟩
  | lexical _ hmem _ hpattern hbinds hscope =>
    exact ⟨hscope.isSite hs, hdeclarator hmem hpattern hbinds⟩
  | named _ hname hscope => exact ⟨hscope.isSite hs, hchild hname⟩
  | self _ hname => exact ⟨hs, hchild hname⟩
  | caught _ hpattern hbinds => exact ⟨hs, hbinds.isSite (hchild hpattern)⟩
  | loopVariable _ _ _ hpattern hbinds hscope =>
    exact ⟨hscope.isSite hs, hbinds.isSite (hchild hpattern)⟩
  | loop _ _ _ hpattern hbinds => exact ⟨hs, hbinds.isSite (hchild hpattern)⟩
  | imported _ himports => exact ⟨.root, himports.isSite hs⟩
  | parameter _ hpattern hbinds =>
    exact ⟨hs, hbinds.isSite (hs.of_mem_children (Site.mem_of_childAt?_orElse hpattern).1)⟩

/-- Identifiers that are declared, and the scopes they are declared in, are places of the tree. -/
lemma Declares.isSite (h : Declares tree scope ident valued) :
    IsSite tree scope ∧ IsSite tree ident := by
  obtain ⟨s, hs, h⟩ := h
  exact h.isSite hs

end sites

end Diagnosis.Lint
