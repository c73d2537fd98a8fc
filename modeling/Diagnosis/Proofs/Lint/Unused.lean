import Diagnosis.Proofs.Lint.NameReport
import Diagnosis.Proofs.Lint.Use
import Diagnosis.Proofs.Lists

/-!
# Which bindings are unused

What `no-unused-vars` should report, in terms of the tree alone. A parameter is reported if nobody reads it or
a later parameter of its function; any other binding if nobody reads it and it is there for nobody else, that
is, not exported and not the own name of an expression. `Reports` says what the report on a binding says and
where it points.

* **Exactly the unused bindings are reported, each once** (`reportsUnused_checkUnused`). A binding can be a
  parameter and a variable, stand twice in a list, or be declared many times: it has one entry, and the two
  loops of the rule look at different entries.
* What the entry of a binding says of it is what the tree says: `exported_eq_true_iff` and
  `isSelf_eq_true_iff`. That only the first declaration of a binding makes it an own name is no loss, for a
  construct comes before everything that declares in it (`head?_declarations_of_self`).
-/

namespace Diagnosis.Lint

open Diagnosis.Syntax

/-! ## What should be reported -/

/-- The parameters of a function, in the order of their declarations. -/
def parametersOf (src : Source) (f : Site) : List Binding :=
  (parameterDeclarations src f).map (·.binding)

/-- Statements that can be exported. -/
def exportableKinds : List String :=
  ["variable_declaration", "lexical_declaration"] ++ namedDeclarationKinds

section unused

variable (src : Source) (tree : Tree)

/-- Whether a binding is a parameter of a function. -/
def IsParameter (b : Binding) : Prop := ∃ f, IsSite tree f ∧ b ∈ parametersOf src f

/-- Whether a binding is a parameter of a function that reads no later parameter. -/
def IsBehindReads (b : Binding) : Prop :=
  ∃ f, IsSite tree f ∧ ∃ before after, parametersOf src f = before ++ b :: after ∧
    ∀ c ∈ after, ¬ IsRead src tree c

/-- Whether a binding is exported by a statement that declares it. An exported function exports its name and
not its parameters. -/
def IsExported (b : Binding) : Prop :=
  ∃ s scope ident valued, IsSite tree s ∧ s.isBelow "export_statement" = true ∧
    s.kind ∈ exportableKinds ∧ DeclaresAt tree s scope ident valued ∧
    (s.kind ∈ functionKinds → s.childAt? "name" = some ident) ∧
    b = ⟨scope.address, src.text ident.node⟩

/-- Whether a binding is the own name of a function or class expression. -/
def IsOwnName (b : Binding) : Prop :=
  ∃ s ident, IsSite tree s ∧ s.kind ∈ selfNamingKinds ∧ s.childAt? "name" = some ident ∧
    b = ⟨s.address, src.text ident.node⟩

/-- Whether an identifier is the first that declares a binding. -/
def DeclaresFirst (ident : Site) (b : Binding) : Prop :=
  ∃ d, (declarations src tree).find? (·.binding == b) = some d ∧ d.ident = ident

/-- Whether the report on a binding belongs at an identifier: at the last that writes it, or without one at
the first that declares it. -/
def IsToBlame (s : Site) (b : Binding) : Prop :=
  IsLast (Writes src tree · b) (Site.walk tree) s ∨
    (∀ s', ¬ Writes src tree s' b) ∧ DeclaresFirst src tree s b

/-- The report that a binding is unused. -/
structure Reports (b : Binding) (finding : Finding) : Prop where
  /-- It says whether the binding got a value for nothing. -/
  assigned : IsAssigned src tree b → finding.message = s!"'{b.name}' is assigned a value but never used."
  /-- Else it says that the binding is there for nothing. -/
  defined : ¬ IsAssigned src tree b → finding.message = s!"'{b.name}' is defined but never used."
  /-- It points to an identifier that is to blame. -/
  place : ∃ s, IsToBlame src tree s b ∧ finding.start = src.place (src.startPoint s.node) ∧
    finding.stop = some (src.place (src.stopPoint s.node))
  /-- It offers no fix. -/
  fix : finding.fix = none

/-- Findings that report the unused bindings of a tree, which are listed beside them. -/
structure ReportsUnused (bs : List Binding) (findings : List Finding) : Prop where
  /-- No binding is reported twice. -/
  nodup : bs.Nodup
  /-- Only what is declared is reported. -/
  declared : ∀ b ∈ bs, IsDeclared src tree b
  /-- Which parameters are reported. -/
  parameter : ∀ b, IsParameter src tree b →
    (b ∈ bs ↔ ¬ IsRead src tree b ∧ IsBehindReads src tree b)
  /-- Which other bindings are reported. -/
  other : ∀ b, IsDeclared src tree b → ¬ IsParameter src tree b →
    (b ∈ bs ↔ ¬ IsRead src tree b ∧ ¬ IsExported src tree b ∧ ¬ IsOwnName src tree b)
  /-- What is said of them. -/
  findings : List.Forall₂ (Reports src tree) bs findings

end unused

/-! ## Exported names and own names -/

section flags

variable {src : Source} {tree : Tree} {s : Site} {d : Declaration} {e : Entry}

/-- A variable is exported if its statement is, and is never an own name. -/
lemma flags_of_mem_variableDeclarations (hd : d ∈ variableDeclarations src s) :
    d.exported = s.isBelow "export_statement" ∧ d.isSelf = false := by
  obtain ⟨declarator, -, hd⟩ := List.mem_flatMap.mp hd
  obtain ⟨ident, -, rfl⟩ := List.mem_map.mp hd
  exact ⟨rfl, rfl⟩

/-- The variable of a loop is never exported, and never an own name. -/
lemma flags_of_mem_loopDeclarations (hd : d ∈ loopDeclarations src s) :
    d.exported = false ∧ d.isSelf = false := by
  unfold loopDeclarations at hd
  split at hd
  · exact absurd hd List.not_mem_nil
  · obtain ⟨ident, -, rfl⟩ := List.mem_map.mp hd
    exact ⟨rfl, rfl⟩

/-- Constructs whose declarations cannot be exported, expressions apart. -/
def localKinds : List String := ["catch_clause", "for_in_statement", "import_statement"]

/-- What a construct declares besides parameters, by its kind. -/
lemma ownDeclarations_cases (hd : d ∈ ownDeclarations src s) :
    (s.kind ∈ ["variable_declaration", "lexical_declaration"] ∧
        d.exported = s.isBelow "export_statement" ∧ d.isSelf = false) ∨
      (s.kind ∈ namedDeclarationKinds ∧ s.childAt? "name" = some d.ident ∧
        d.exported = s.isBelow "export_statement" ∧ d.isSelf = false) ∨
      (s.kind ∈ selfNamingKinds ∧ s.childAt? "name" = some d.ident ∧
        d.exported = false ∧ d.isSelf = true) ∨
      (s.kind ∈ localKinds ∧ d.exported = false ∧ d.isSelf = false) := by
  have hlocal : ∀ {kind}, kind ∈ localKinds → (s.kind == kind) = true → s.kind ∈ localKinds :=
    fun hkind heq => beq_iff_eq.mp heq ▸ hkind
  unfold ownDeclarations at hd
  split at hd
  case isTrue hkind => exact .inl ⟨by simpa using hkind, flags_of_mem_variableDeclarations hd⟩
  right
  split at hd
  case isTrue hkind =>
    obtain ⟨ident, hident, rfl⟩ := mem_map_childAt?.mp hd
    exact .inl ⟨List.contains_iff_mem.mp hkind, hident, rfl, rfl⟩
  right
  split at hd
  case isTrue hkind =>
    obtain ⟨ident, hident, rfl⟩ := mem_map_childAt?.mp hd
    exact .inl ⟨List.contains_iff_mem.mp hkind, hident, rfl, rfl⟩
  right
  split at hd
  case isTrue hkind =>
    obtain ⟨ident, -, rfl⟩ := List.mem_map.mp hd
    exact ⟨hlocal (by decide) hkind, rfl, rfl⟩
  split at hd
  case isTrue hkind => exact ⟨hlocal (by decide) hkind, flags_of_mem_loopDeclarations hd⟩
  split at hd
  case isTrue hkind =>
    obtain ⟨ident, -, rfl⟩ := List.mem_map.mp hd
    exact ⟨hlocal (by decide) hkind, rfl, rfl⟩
  case isFalse => exact absurd hd List.not_mem_nil

/-- What the kind of a construct says of its own declarations. -/
lemma flags_of_mem_ownDeclarations (hd : d ∈ ownDeclarations src s) :
    d.exported = (exportableKinds.contains s.kind && s.isBelow "export_statement") ∧
      d.isSelf = selfNamingKinds.contains s.kind ∧
      (s.kind ∈ functionKinds → s.childAt? "name" = some d.ident) := by
  obtain ⟨hkind, hexported, hself⟩ | ⟨hkind, hname, hexported, hself⟩ | ⟨hkind, hname, hexported, hself⟩ |
    ⟨hkind, hexported, hself⟩ := ownDeclarations_cases hd
  · obtain ⟨hexportable, hnot, hfunction⟩ := (show
      ∀ kind ∈ ["variable_declaration", "lexical_declaration"], exportableKinds.contains kind = true ∧
        selfNamingKinds.contains kind = false ∧ kind ∉ functionKinds by decide) _ hkind
    rw [hexported, hself, hexportable, hnot]
    exact ⟨rfl, rfl, fun h => absurd h hfunction⟩
  · obtain ⟨hexportable, hnot⟩ := (show ∀ kind ∈ namedDeclarationKinds,
      exportableKinds.contains kind = true ∧ selfNamingKinds.contains kind = false by decide) _ hkind
    rw [hexported, hself, hexportable, hnot]
    exact ⟨rfl, rfl, fun _ => hname⟩
  · have hexportable := (show ∀ kind ∈ selfNamingKinds, exportableKinds.contains kind = false
      by decide) _ hkind
    rw [hexported, hself, hexportable, List.contains_iff_mem.mpr hkind]
    exact ⟨rfl, rfl, fun _ => hname⟩
  · obtain ⟨hexportable, hnot, hfunction⟩ := (show ∀ kind ∈ localKinds,
      exportableKinds.contains kind = false ∧ selfNamingKinds.contains kind = false ∧
        kind ∉ functionKinds by decide) _ hkind
    rw [hexported, hself, hexportable, hnot]
    exact ⟨rfl, rfl, fun h => absurd h hfunction⟩

/-- Parameters are neither exported nor own names. -/
lemma flags_of_mem_parameterDeclarations (hd : d ∈ parameterDeclarations src s) :
    d.exported = false ∧ d.isSelf = false ∧
      (s.kind ∈ functionKinds ∧ s.childAt? "name" ≠ some d.ident) := by
  unfold parameterDeclarations at hd
  split at hd
  case isTrue hkind =>
    have hkind := List.contains_iff_mem.mp hkind
    obtain ⟨pattern, ident, hpattern, hbinds, rfl⟩ := mem_map_patternIdentifiers?.mp hd
    exact ⟨rfl, rfl, hkind, hbinds.ne_name hkind hpattern⟩
  case isFalse => exact absurd hd List.not_mem_nil

/-- The flags of an entry are those of the declarations of its binding. -/
lemma flags_of_mem (he : e ∈ (analysisOf src tree).table) :
    e.isSelf = ((declarations src tree).filter (·.binding == e.binding)).head?.any (·.isSelf) ∧
      e.exported = ((declarations src tree).filter (·.binding == e.binding)).any (·.exported) := by
  have hfind := keyed_analysis.find?_eq_some_iff.mpr ⟨he, rfl⟩
  rw [find?_analysis] at hfind
  obtain ⟨e₀, hof, huse⟩ := Option.map_eq_some_iff.mp hfind
  obtain ⟨hself, hexported⟩ := Entry.flags_foldl_use (usesIn src tree e.binding) e₀
  rw [huse] at hself hexported
  rw [hself, hexported]
  exact Entry.flags_ofAll hof

/-- An entry knows whether its binding is exported. -/
lemma exported_eq_true_iff (he : e ∈ (analysisOf src tree).table) :
    e.exported = true ↔ IsExported src tree e.binding := by
  rw [(flags_of_mem he).2, List.any_eq_true]
  constructor
  · rintro ⟨d, hd, hexported⟩
    obtain ⟨hd, hbinding⟩ := List.mem_filter.mp hd
    obtain ⟨s, hs, hd⟩ := List.mem_flatMap.mp hd
    have hs := Site.mem_walk_iff.mp hs
    obtain ⟨hdeclares, hname⟩ := declaresAt_of_mem hs hd
    obtain hown | hparameter := List.mem_append.mp hd
    · obtain ⟨hflag, -, hnamed⟩ := flags_of_mem_ownDeclarations hown
      rw [hexported, eq_comm, Bool.and_eq_true] at hflag
      refine ⟨s, d.scope, d.ident, d.hasValue, hs, hflag.2, List.contains_iff_mem.mp hflag.1, hdeclares,
        hnamed, ?_⟩
      rw [← beq_iff_eq.mp hbinding, ← hname]
      rfl
    · rw [(flags_of_mem_parameterDeclarations hparameter).1] at hexported
      exact absurd hexported Bool.false_ne_true
  · rintro ⟨s, scope, ident, valued, hs, hbelow, hkind, hdeclares, hnamed, hbinding⟩
    obtain ⟨d, hd, rfl, rfl, -⟩ := exists_mem_of_declaresAt src hs hdeclares
    have hmem : d ∈ declarations src tree := List.mem_flatMap.mpr ⟨s, Site.mem_walk_iff.mpr hs, hd⟩
    refine ⟨d, List.mem_filter.mpr ⟨hmem, ?_⟩, ?_⟩
    · rw [beq_iff_eq, hbinding, ← (declaresAt_of_mem hs hd).2]
      rfl
    · obtain hown | hparameter := List.mem_append.mp hd
      · rw [(flags_of_mem_ownDeclarations hown).1, List.contains_iff_mem.mpr hkind, hbelow]
        rfl
      · obtain ⟨-, -, hfunction, hne⟩ := flags_of_mem_parameterDeclarations hparameter
        exact absurd (hnamed hfunction) hne

/-- A construct declares in itself or in a scope that encloses it. -/
lemma DeclaresAt.address_isSuffix {scope ident : Site} {valued : Bool}
    (h : DeclaresAt tree s scope ident valued) : scope.address <:+ s.address := by
  have hencloses : ∀ {kinds}, Encloses tree kinds s scope → scope.address <:+ s.address := by
    rintro kinds (hnearest | ⟨-, rfl⟩)
    · exact Site.address_isSuffix_of_mem_ancestors hnearest.mem_ancestors
    · exact List.nil_suffix
  cases h with
  | «variable» _ _ _ _ _ hscope => exact hencloses hscope
  | lexical _ _ _ _ _ hscope => exact hencloses hscope
  | named _ _ hscope => exact hencloses hscope
  | loopVariable _ _ _ _ _ hscope => exact hencloses hscope
  | imported => exact List.nil_suffix
  | self | caught | loop | parameter => exact List.suffix_rfl

/-- The own name of an expression is declared before anything else is declared in the expression. -/
lemma head?_declarations_of_self {ident : Site} (hs : IsSite tree s) (hself : s.kind ∈ selfNamingKinds)
    (hname : s.childAt? "name" = some ident) :
    ((declarations src tree).filter (·.binding == ⟨s.address, src.text ident.node⟩)).head? =
      some { Declaration.of src s ident with isSelf := true } := by
  obtain ⟨before, after, hsplit⟩ := List.append_of_mem (Site.mem_walk_iff.mpr hs)
  have hbefore : (before.flatMap (declarationsAt src)).filter
      (·.binding == ⟨s.address, src.text ident.node⟩) = [] := by
    rw [List.filter_eq_nil_iff]
    intro d hd hbinding
    obtain ⟨s', hs', hd⟩ := List.mem_flatMap.mp hd
    have hsite : IsSite tree s' := Site.mem_walk_iff.mp (hsplit ▸ List.mem_append_left _ hs')
    have hscope : d.scope.address = s.address := (Binding.mk.inj (beq_iff_eq.mp hbinding)).1
    apply Site.not_isSuffix_of_mem_before hsplit hs'
    rw [← hscope]
    exact (declaresAt_of_mem hsite hd).1.address_isSuffix
  rw [declarations, hsplit, List.flatMap_append, List.filter_append, hbefore, List.nil_append,
    List.flatMap_cons, declarationsAt, ownDeclarations_of_self src hself, hname]
  simp [Declaration.binding, Declaration.of]

/-- An entry knows whether its binding is the own name of an expression. -/
lemma isSelf_eq_true_iff (he : e ∈ (analysisOf src tree).table) :
    e.isSelf = true ↔ IsOwnName src tree e.binding := by
  rw [(flags_of_mem he).1]
  constructor
  · intro hself
    obtain ⟨d, hd, hself⟩ := (Option.any_eq_true _ _).mp hself
    obtain ⟨hd, hbinding⟩ := List.mem_filter.mp (List.mem_of_head? hd)
    obtain ⟨s, hs, hd⟩ := List.mem_flatMap.mp hd
    obtain hown | hparameter := List.mem_append.mp hd
    · rw [(flags_of_mem_ownDeclarations hown).2.1, List.contains_iff_mem] at hself
      rw [ownDeclarations_of_self src hself] at hown
      obtain ⟨ident, hident, rfl⟩ := mem_map_childAt?.mp hown
      exact ⟨s, ident, Site.mem_walk_iff.mp hs, hself, hident, (beq_iff_eq.mp hbinding).symm⟩
    · rw [(flags_of_mem_parameterDeclarations hparameter).2.1] at hself
      exact absurd hself Bool.false_ne_true
  · rintro ⟨s, ident, hs, hself, hname, hbinding⟩
    rw [hbinding, head?_declarations_of_self hs hself hname]
    rfl

end flags

/-! ## The bindings that are reported -/

section bindings

variable {src : Source} {tree : Tree} {a : Analysis} {b : Binding} {e : Entry}

/-- Every entry is listed. -/
lemma mem_entries_iff : e ∈ a.entries ↔ e ∈ a.table := by
  refine ⟨Analysis.mem_of_mem_entries, fun he => ?_⟩
  apply List.mem_flatMap.mpr
  refine ⟨e.binding.scope, List.mem_eraseDups.mpr (List.mem_map_of_mem he), ?_⟩
  exact List.mem_filter.mpr ⟨he, beq_self_eq_true _⟩

/-- Scope by scope, each binding comes once. -/
lemma nodup_entries (ha : a.table.Keyed) : (a.entries.map (·.binding)).Nodup := by
  rw [Analysis.entries, List.map_flatMap, List.nodup_flatMap]
  constructor
  · intro scope _
    exact ha.sublist (List.filter_sublist.map _)
  · refine (nodup_eraseDups _).imp fun {scope scope'} hne => ?_
    intro b hb hb'
    obtain ⟨e, he, rfl⟩ := List.mem_map.mp hb
    obtain ⟨e', he', heq⟩ := List.mem_map.mp hb'
    apply hne
    rw [← beq_iff_eq.mp (List.mem_filter.mp he).2, ← heq, beq_iff_eq.mp (List.mem_filter.mp he').2]

/-- The lists of parameters are those of the functions of the tree. -/
lemma mem_parameters_iff {bs : List Binding} :
    bs ∈ (analysisOf src tree).parameters ↔
      ∃ f, IsSite tree f ∧ f.kind ∈ functionKinds ∧ bs = parametersOf src f := by
  rw [analysisOf, Analysis.of, Analysis.parameters_foldl_refer, Analysis.declared, List.mem_map]
  simp only [List.mem_filter, Site.mem_walk_iff, List.contains_iff_mem, parametersOf]
  constructor
  · rintro ⟨f, ⟨hf, hkind⟩, rfl⟩
    exact ⟨f, hf, hkind, rfl⟩
  · rintro ⟨f, hf, hkind, rfl⟩
    exact ⟨f, ⟨hf, hkind⟩, rfl⟩

/-- Only functions have parameters. -/
lemma kind_mem_of_mem_parametersOf {f : Site} (hb : b ∈ parametersOf src f) : f.kind ∈ functionKinds := by
  obtain ⟨d, hd, -⟩ := List.mem_map.mp hb
  exact (flags_of_mem_parameterDeclarations hd).2.2.1

/-- So a binding is listed as a parameter if it is one. -/
lemma mem_flatten_parameters_iff :
    b ∈ (analysisOf src tree).parameters.flatten ↔ IsParameter src tree b := by
  rw [List.mem_flatten]
  constructor
  · rintro ⟨bs, hbs, hb⟩
    obtain ⟨f, hf, -, rfl⟩ := mem_parameters_iff.mp hbs
    exact ⟨f, hf, hb⟩
  · rintro ⟨f, hf, hb⟩
    exact ⟨_, mem_parameters_iff.mpr ⟨f, hf, kind_mem_of_mem_parametersOf hb, rfl⟩, hb⟩

/-- A parameter is declared. -/
lemma IsParameter.isDeclared (hb : IsParameter src tree b) : IsDeclared src tree b := by
  obtain ⟨f, hf, hb⟩ := hb
  obtain ⟨d, hd, rfl⟩ := List.mem_map.mp hb
  obtain ⟨hdeclares, hname⟩ := declaresAt_of_mem hf (List.mem_append_right _ hd)
  refine ⟨d.scope, d.ident, d.hasValue, ⟨f, hf, hdeclares⟩, ?_⟩
  rw [← hname]
  rfl

/-- Only parameters can be behind reads. -/
lemma IsBehindReads.isParameter (hb : IsBehindReads src tree b) : IsParameter src tree b := by
  obtain ⟨f, hf, before, after, hsplit, -⟩ := hb
  exact ⟨f, hf, hsplit ▸ List.mem_append_right before List.mem_cons_self⟩

/-- The trailing unread parameters of the functions are those that nobody reads, behind the last one of
some function that anybody reads. -/
lemma mem_trailingUnread_iff :
    b ∈ (analysisOf src tree).parameters.flatMap (Names.trailingUnread (analysisOf src tree)) ↔
      ¬ IsRead src tree b ∧ IsBehindReads src tree b := by
  have hunread : ∀ {f}, IsSite tree f → ∀ c ∈ parametersOf src f,
      ((!(analysisOf src tree).isRead c) = true ↔ ¬ IsRead src tree c) := by
    intro f hf c hc
    have hdeclared := IsParameter.isDeclared ⟨f, hf, hc⟩
    rw [Bool.not_eq_true', ← Bool.not_eq_true, isRead_eq_true_iff hdeclared]
  rw [List.mem_flatMap]
  constructor
  · rintro ⟨bs, hbs, hb⟩
    obtain ⟨f, hf, -, rfl⟩ := mem_parameters_iff.mp hbs
    obtain ⟨before, after, hsplit, hall⟩ := mem_rtakeWhile_iff.mp hb
    have hnot : ∀ c ∈ b :: after, ¬ IsRead src tree c := fun c hc =>
      (hunread hf c (hsplit ▸ List.mem_append_right before hc)).mp (hall c hc)
    exact ⟨hnot b List.mem_cons_self, f, hf, before, after, hsplit,
      fun c hc => hnot c (List.mem_cons_of_mem b hc)⟩
  · rintro ⟨hb, f, hf, before, after, hsplit, hafter⟩
    have hmem : ∀ c ∈ b :: after, c ∈ parametersOf src f := fun c hc =>
      hsplit ▸ List.mem_append_right before hc
    refine ⟨_, mem_parameters_iff.mpr
      ⟨f, hf, kind_mem_of_mem_parametersOf (hmem b List.mem_cons_self), rfl⟩, ?_⟩
    apply mem_rtakeWhile_iff.mpr
    refine ⟨before, after, hsplit, fun c hc => (hunread hf c (hmem c hc)).mpr ?_⟩
    obtain rfl | hc := List.mem_cons.mp hc
    · exact hb
    · exact hafter c hc

/-- The bindings of the unread parameters to report. -/
lemma map_binding_unusedParameters :
    (Names.unusedParameters (analysisOf src tree)).map (·.binding) =
      ((analysisOf src tree).parameters.flatMap
        (Names.trailingUnread (analysisOf src tree))).eraseDups := by
  have hfind : ∀ bs : List Binding, (∀ b ∈ bs, IsDeclared src tree b) →
      (bs.filterMap (analysisOf src tree).table.find?).map (·.binding) = bs := by
    intro bs hbs
    induction bs with
    | nil => rfl
    | cons b bs ih =>
      obtain ⟨hb, hrest⟩ := List.forall_mem_cons.mp hbs
      obtain ⟨e, he, heq⟩ := exists_binding_eq_iff.mpr hb
      rw [List.filterMap_cons_some (keyed_analysis.find?_eq_some_iff.mpr ⟨he, heq⟩), List.map_cons, heq,
        ih hrest]
  apply hfind
  intro b hb
  exact (mem_trailingUnread_iff.mp (List.mem_eraseDups.mp hb)).2.isParameter.isDeclared

/-- A binding is an unused variable if it is no parameter, nobody reads it, and it is there for nobody else.
-/
lemma mem_unusedVariables_iff (hb : IsDeclared src tree b) :
    b ∈ (Names.unusedVariables (analysisOf src tree)).map (·.binding) ↔
      ¬ IsParameter src tree b ∧
        ¬ IsRead src tree b ∧ ¬ IsExported src tree b ∧ ¬ IsOwnName src tree b := by
  have hreported : ∀ e ∈ (analysisOf src tree).table,
      (e ∈ Names.unusedVariables (analysisOf src tree) ↔
        ¬ IsParameter src tree e.binding ∧ ¬ IsRead src tree e.binding ∧
          ¬ IsExported src tree e.binding ∧ ¬ IsOwnName src tree e.binding) := by
    intro e he
    rw [Names.unusedVariables, List.mem_filter, mem_entries_iff, and_iff_right he,
      ← mem_flatten_parameters_iff, ← read_eq_true_iff he, ← exported_eq_true_iff he,
      ← isSelf_eq_true_iff he]
    simp [and_assoc, and_comm]
  obtain ⟨e, he, rfl⟩ := exists_binding_eq_iff.mpr hb
  rw [← hreported e he]
  constructor
  · intro hmem
    obtain ⟨e', he', heq⟩ := List.mem_map.mp hmem
    have htable := mem_entries_iff.mp (List.mem_of_mem_filter he')
    rwa [List.inj_on_of_nodup_map keyed_analysis htable he heq] at he'
  · exact List.mem_map_of_mem

end bindings

/-! ## The findings -/

section findings

variable {src : Source} {tree : Tree} {e : Entry}

/-- An entry is reported as its binding should be. -/
lemma exists_reports_of_mem (he : e ∈ (analysisOf src tree).table) :
    ∃ finding, Names.unused (.of src tree) e = some finding ∧ Reports src tree e.binding finding := by
  obtain ⟨d, hd, hidents⟩ : ∃ d, (declarations src tree).find? (·.binding == e.binding) = some d ∧
      e.idents.head? = some d.ident := by
    have hsums := sumsUp_of_mem he
    obtain ⟨d, hd⟩ := Option.isSome_iff_exists.mp (List.isSome_head?.mpr hsums.declared)
    refine ⟨d, by rw [← List.head?_filter, hd], ?_⟩
    rw [hsums.idents, List.head?_map, hd, Option.map_some]
  obtain ⟨target, htarget, hblame⟩ : ∃ target, (e.lastWrite? <|> e.idents.head?) = some target ∧
      IsToBlame src tree target e.binding := by
    cases hlast : e.lastWrite? with
    | some s => exact ⟨s, rfl, .inl ((lastWrite?_eq_some_iff_writes he).mp hlast)⟩
    | none =>
      exact ⟨d.ident, hidents, .inr ⟨(lastWrite?_eq_none_iff he).mp hlast, d, hd, rfl⟩⟩
  have hsaid : ∀ said : String, s!"'{e.binding.name}' {said} but never used." =
      "'" ++ e.binding.name ++ ("' " ++ said ++ " but never used.") := by
    intro said
    simp only [String.append_assoc]
    rfl
  refine ⟨_, by rw [Names.unused, htarget]; rfl, ?_, ?_, ⟨target, hblame, rfl, rfl⟩, rfl⟩
  · intro hassigned
    show s!"'{e.binding.name}' {_} but never used." = _
    rw [hsaid, if_pos ((assigned_eq_true_iff he).mpr hassigned)]
    rfl
  · intro hassigned
    show s!"'{e.binding.name}' {_} but never used." = _
    rw [hsaid, if_neg ((assigned_eq_true_iff he).not.mpr hassigned)]
    rfl

/-- Entries are reported one by one, each for its binding. -/
lemma forall₂_reports {es : List Entry} (hes : ∀ e ∈ es, e ∈ (analysisOf src tree).table) :
    List.Forall₂ (Reports src tree) (es.map (·.binding)) (es.filterMap (Names.unused (.of src tree))) := by
  induction es with
  | nil => exact .nil
  | cons e es ih =>
    obtain ⟨he, hrest⟩ := List.forall_mem_cons.mp hes
    obtain ⟨finding, hfound, hreports⟩ := exists_reports_of_mem he
    rw [List.filterMap_cons_some hfound, List.map_cons]
    exact .cons hreports (ih hrest)

/-- **Exactly the unused bindings are reported, each once.** -/
theorem reportsUnused_checkUnused (src : Source) (tree : Tree) :
    ∃ bs, ReportsUnused src tree bs (Names.checkUnused (.of src tree)) := by
  have hes : ∀ e ∈ Names.unusedParameters (analysisOf src tree) ++
      Names.unusedVariables (analysisOf src tree), e ∈ (analysisOf src tree).table :=
    fun e he => Names.mem_table_of_mem_unused he
  have hparameters : ∀ b, b ∈ (Names.unusedParameters (analysisOf src tree)).map (·.binding) ↔
      ¬ IsRead src tree b ∧ IsBehindReads src tree b := by
    intro b
    rw [map_binding_unusedParameters, List.mem_eraseDups, mem_trailingUnread_iff]
  have hdeclared : ∀ b ∈ (Names.unusedParameters (analysisOf src tree) ++
      Names.unusedVariables (analysisOf src tree)).map (·.binding), IsDeclared src tree b := by
    intro b hb
    obtain ⟨e, he, rfl⟩ := List.mem_map.mp hb
    exact exists_binding_eq_iff.mp ⟨e, hes e he, rfl⟩
  refine ⟨_, ?_, hdeclared, fun b hb => ?_, fun b hb hnot => ?_, forall₂_reports hes⟩
  · rw [List.map_append, List.nodup_append]
    refine ⟨?_, ?_, ?_⟩
    · rw [map_binding_unusedParameters]
      exact nodup_eraseDups _
    · exact (nodup_entries keyed_analysis).sublist (List.filter_sublist.map _)
    · rintro b hb _ hb' rfl
      -- the second loop passes over everything that the first one looks at
      have hb'' := hdeclared b (List.map_append ▸ List.mem_append_right _ hb')
      exact ((mem_unusedVariables_iff hb'').mp hb').1 ((hparameters b).mp hb).2.isParameter
  · rw [List.map_append, List.mem_append, hparameters, mem_unusedVariables_iff hb.isDeclared]
    simp [hb]
  · rw [List.map_append, List.mem_append, hparameters, mem_unusedVariables_iff hb,
      or_iff_right fun h => hnot h.2.isParameter, and_iff_right hnot]

end findings

end Diagnosis.Lint
