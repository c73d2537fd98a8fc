import Diagnosis.Proofs.Lint.Lexical

/-!
# Renaming a variable

A variable gets a new name where it is declared and where it is used (`occurrences`), and nothing else
in the tree changes. If no identifier has the new name so far, the analysis of the text says the same
as before, with the new name in place of the old one (`Renames.analysis_eq`).

`Renaming` carries a change of name through bindings, declarations, entries, tables and analyses. Both
passes commute with it: the first since bindings that are different stay different, the second since a
name is resolved to the renamed entry exactly where it was resolved to the entry before
(`Renaming.resolve_table`). Here shadowing matters: on the way up from a use the old name may be
declared by another scope, and then the use is not one of the occurrences.
-/

namespace Diagnosis.Lint

open Diagnosis.Syntax

/-! ## Renamings -/

/-- A new name for a variable. -/
structure Renaming where
  /-- The variable. -/
  old : Binding
  /-- The new name. -/
  name : String

namespace Renaming

variable (r : Renaming)

/-- The binding under its new name. -/
def binding (c : Binding) : Binding := if c = r.old then ⟨c.scope, r.name⟩ else c

/-- The declaration under its new name. -/
def declaration (d : Declaration) : Declaration := { d with name := (r.binding d.binding).name }

/-- The entry of the renamed binding. -/
def entry (e : Entry) : Entry := { e with binding := r.binding e.binding }

/-- The table of the renamed bindings. -/
def table (t : Table) : Table := t.map r.entry

/-- The analysis of the renamed names. -/
def analysis (a : Analysis) : Analysis :=
  { table := r.table a.table
    parameters := a.parameters.map (·.map r.binding)
    undefined := a.undefined }

/-- Whether no binding of a table has the new name. -/
def IsFresh (t : Table) : Prop := ∀ c ∈ t.map (·.binding), c.name ≠ r.name

end Renaming

section names

variable {r : Renaming} {t : Table} {c d : Binding} {s : Site} {name : String}

/-- Renaming leaves the scope as it is. -/
lemma Renaming.scope_binding (c : Binding) : (r.binding c).scope = c.scope := by
  unfold binding
  split <;> rfl

/-- Other bindings stay as they are. -/
lemma Renaming.binding_of_ne (h : c ≠ r.old) : r.binding c = c := if_neg h

/-- The old binding becomes the one with the new name. -/
lemma Renaming.binding_old : r.binding r.old = ⟨r.old.scope, r.name⟩ := if_pos rfl

/-- A renamed declaration is one of the renamed binding. -/
lemma Renaming.binding_declaration (d : Declaration) :
    (r.declaration d).binding = r.binding d.binding := by
  have hscope : (r.binding d.binding).scope = d.scope.address := scope_binding d.binding
  rw [Declaration.binding, declaration, ← hscope]

/-- Bindings that do not have the new name stay different. -/
lemma Renaming.binding_inj (hc : c.name ≠ r.name) (hd : d.name ≠ r.name) :
    r.binding c = r.binding d ↔ c = d := by
  constructor
  · intro h
    by_cases hcOld : c = r.old
    · by_cases hdOld : d = r.old
      · rw [hcOld, hdOld]
      · rw [hcOld, binding_old, binding_of_ne hdOld] at h
        exact absurd (congrArg Binding.name h).symm hd
    · by_cases hdOld : d = r.old
      · rw [hdOld, binding_old, binding_of_ne hcOld] at h
        exact absurd (congrArg Binding.name h) hc
      · rwa [binding_of_ne hcOld, binding_of_ne hdOld] at h
  · rintro rfl
    rfl

/-- Of the bindings that do not have the new name, a renamed one is none. -/
lemma Renaming.binding_eq_iff (hd : d.name ≠ r.name) :
    r.binding c = d ↔ c = d ∧ d ≠ r.old := by
  by_cases hcOld : c = r.old
  · rw [hcOld, binding_old]
    constructor
    · rintro rfl
      exact absurd rfl hd
    · rintro ⟨rfl, hne⟩
      exact absurd rfl hne
  · rw [binding_of_ne hcOld]
    constructor
    · rintro rfl
      exact ⟨rfl, hcOld⟩
    · exact And.left

/-! ## Looking up -/

/-- A name that is new to a table is new to its first entry and to the rest. -/
lemma Renaming.IsFresh.of_cons {e : Entry} (h : r.IsFresh (e :: t)) :
    e.binding.name ≠ r.name ∧ r.IsFresh t := by
  unfold IsFresh at h
  rw [List.map_cons, List.forall_mem_cons] at h
  exact h

/-- A renamed binding has the renamed entry. -/
lemma Renaming.find?_binding (ht : r.IsFresh t) (hc : c.name ≠ r.name) :
    (r.table t).find? (r.binding c) = (t.find? c).map r.entry := by
  induction t with
  | nil => rfl
  | cons e rest ih =>
    obtain ⟨he, hrest⟩ := ht.of_cons
    rw [table, List.map_cons, Table.find?_cons, Table.find?_cons, ← table, ih hrest]
    change (if r.binding e.binding = r.binding c then _ else _) = _
    by_cases heq : e.binding = c
    · rw [if_pos (congrArg r.binding heq), if_pos heq]
      rfl
    · rw [if_neg ((binding_inj he hc).not.mpr heq), if_neg heq]

/-- The old binding has no entry any more. -/
lemma Renaming.find?_old (ht : r.IsFresh t) (hold : r.old.name ≠ r.name) :
    (r.table t).find? r.old = none := by
  induction t with
  | nil => rfl
  | cons e rest ih =>
    obtain ⟨he, hrest⟩ := ht.of_cons
    rw [table, List.map_cons, Table.find?_cons, ← table, ih hrest]
    exact if_neg fun h => ((binding_eq_iff hold).mp h).2 rfl

/-- The new name is declared in one scope only. -/
lemma Renaming.find?_new (ht : r.IsFresh t) {scope : Address} (hscope : scope ≠ r.old.scope) :
    (r.table t).find? ⟨scope, r.name⟩ = none := by
  induction t with
  | nil => rfl
  | cons e rest ih =>
    obtain ⟨he, hrest⟩ := ht.of_cons
    rw [table, List.map_cons, Table.find?_cons, ← table, ih hrest]
    refine if_neg fun h => ?_
    change r.binding e.binding = _ at h
    by_cases heOld : e.binding = r.old
    · rw [heOld, binding_old] at h
      exact hscope (congrArg Binding.scope h).symm
    · rw [binding_of_ne heOld] at h
      exact he (congrArg Binding.name h)

/-- The entry of a name in the first of several scopes that declares it. -/
def Table.nearest? (t : Table) (scopes : List Site) (name : String) : Option Entry :=
  scopes.findSome? fun scope => t.find? ⟨scope.address, name⟩

/-- The nearest entry is the one of the first scope, if it has one. -/
lemma Table.nearest?_cons {scope : Site} {scopes : List Site} :
    t.nearest? (scope :: scopes) name =
      (t.find? ⟨scope.address, name⟩).or (t.nearest? scopes name) := by
  rw [nearest?, List.findSome?_cons]
  cases t.find? ⟨scope.address, name⟩ <;> rfl

/-- The nearest entry is that of a scope that has the name. -/
lemma Table.exists_of_nearest? {scopes : List Site} {e : Entry} (h : t.nearest? scopes name = some e) :
    ∃ scope, t.find? ⟨scope, name⟩ = some e ∧ e.binding = ⟨scope, name⟩ := by
  obtain ⟨scope, -, hfind⟩ := List.exists_of_findSome?_eq_some h
  exact ⟨scope.address, hfind, (of_find? hfind).2⟩

/-- Where the variable was found by its old name, it is found by its new one: no scope in between
declares it. -/
lemma Renaming.nearest?_new (ht : r.IsFresh t) (hname : name ≠ r.name) {scopes : List Site}
    (h : (t.nearest? scopes name).map (·.binding) = some r.old) :
    (r.table t).nearest? scopes r.name = (t.nearest? scopes name).map r.entry := by
  induction scopes with
  | nil => exact absurd h nofun
  | cons scope scopes ih =>
    rw [Table.nearest?_cons] at h ⊢
    rw [Table.nearest?_cons]
    cases hfind : t.find? ⟨scope.address, name⟩ with
    | some e =>
      rw [hfind, Option.some_or, Option.map_some, (Table.of_find? hfind).2] at h
      have hnew : Binding.mk scope.address r.name = r.binding ⟨scope.address, name⟩ := by
        rw [Option.some.inj h, binding_old, ← Option.some.inj h]
      rw [hnew, find?_binding ht hname, hfind]
      rfl
    | none =>
      rw [hfind, Option.none_or] at h
      obtain ⟨e, hsome, hold⟩ := Option.map_eq_some_iff.mp h
      obtain ⟨outer, houter, hbinding⟩ := Table.exists_of_nearest? hsome
      rw [hold] at hbinding
      have hscope : scope.address ≠ r.old.scope := by
        intro heq
        rw [heq, show r.old.scope = outer from congrArg Binding.scope hbinding, houter] at hfind
        exact absurd hfind nofun
      rw [find?_new ht hscope, Option.none_or, Option.none_or]
      exact ih h

/-- Other names are found where they were. -/
lemma Renaming.nearest?_other (ht : r.IsFresh t) (hname : name ≠ r.name) {scopes : List Site}
    (h : (t.nearest? scopes name).map (·.binding) ≠ some r.old) :
    (r.table t).nearest? scopes name = (t.nearest? scopes name).map r.entry := by
  induction scopes with
  | nil => rfl
  | cons scope scopes ih =>
    rw [Table.nearest?_cons] at h ⊢
    rw [Table.nearest?_cons]
    cases hfind : t.find? ⟨scope.address, name⟩ with
    | some e =>
      rw [hfind, Option.some_or, Option.map_some, (Table.of_find? hfind).2] at h
      rw [← binding_of_ne fun hold => h (congrArg some hold), find?_binding ht hname, hfind]
      rfl
    | none =>
      rw [hfind, Option.none_or] at h
      have hnone : (r.table t).find? ⟨scope.address, name⟩ = none := by
        by_cases hold : Binding.mk scope.address name = r.old
        · rw [hold]
          exact find?_old ht (hold ▸ hname)
        · rw [← binding_of_ne hold, find?_binding ht hname, hfind]
          rfl
      rw [hnone, Option.none_or, Option.none_or]
      exact ih h

/-- What the name of an identifier becomes: the new name, if it refers to the variable. -/
def Renaming.newName (r : Renaming) (t : Table) (s : Site) (name : String) : String :=
  if t.target? s name = some r.old then r.name else name

/-- **Names keep their meaning.** A name is resolved to the renamed entry. -/
theorem Renaming.resolve_table (ht : r.IsFresh t) (hname : name ≠ r.name) :
    (r.table t).resolve s (r.newName t s name) = (t.resolve s name).map r.entry := by
  unfold newName
  split
  case isTrue htarget => exact nearest?_new ht hname htarget
  case isFalse htarget => exact nearest?_other ht hname htarget

end names

/-! ## The first pass -/

section declarations

variable {r : Renaming} {t : Table} {d : Declaration}

/-- Declaring and renaming may be done in any order. -/
lemma Renaming.declare_table (ht : r.IsFresh t) (hd : d.name ≠ r.name) :
    (r.table t).declare (r.declaration d) = r.table (t.declare d) := by
  induction t with
  | nil =>
    rw [Table.declare, table, table, List.map_nil, Table.declare, Entry.of, binding_declaration]
    rfl
  | cons e rest ih =>
    obtain ⟨he, hrest⟩ := ht.of_cons
    rw [Table.declare, table, List.map_cons, Table.declare, binding_declaration]
    change (if r.binding e.binding == r.binding d.binding then _ else _) = _
    by_cases heq : e.binding = d.binding
    · rw [if_pos (by rw [heq]; exact beq_self_eq_true _), if_pos (beq_iff_eq.mpr heq)]
      rfl
    · rw [if_neg (by simpa using (binding_inj he hd).not.mpr heq), if_neg (by simpa using heq),
        ← table, ih hrest]
      rfl

/-- Declaring another name keeps a name new. -/
lemma Renaming.IsFresh.declare (ht : r.IsFresh t) (hd : d.name ≠ r.name) :
    r.IsFresh (t.declare d) := by
  unfold IsFresh
  rw [Table.map_binding_declare]
  split
  · exact ht
  · exact List.forall_mem_append.mpr ⟨ht, List.forall_mem_singleton.mpr hd⟩

/-- The first pass commutes with renaming. -/
lemma Renaming.foldl_declare_table {ds : List Declaration} (hds : ∀ d ∈ ds, d.name ≠ r.name)
    (ht : r.IsFresh t) :
    (ds.map r.declaration).foldl Table.declare (r.table t) = r.table (ds.foldl Table.declare t) ∧
      r.IsFresh (ds.foldl Table.declare t) := by
  induction ds generalizing t with
  | nil => exact ⟨rfl, ht⟩
  | cons d ds ih =>
    obtain ⟨hd, hds⟩ := List.forall_mem_cons.mp hds
    rw [List.map_cons, List.foldl_cons, declare_table ht hd]
    exact ih hds (ht.declare hd)

end declarations

/-- The declaration with the name that another text gives it. -/
def Declaration.reread (src : Source) (d : Declaration) : Declaration :=
  { d with name := src.text d.ident.node }

/-- Declarations depend on the text only in their names. -/
lemma declarationsAt_eq_map (src src' : Source) (s : Site) :
    declarationsAt src' s = (declarationsAt src s).map (·.reread src') ∧
      parameterDeclarations src' s = (parameterDeclarations src s).map (·.reread src') := by
  have hvariable : variableDeclarations src' s =
      (variableDeclarations src s).map (·.reread src') := by
    unfold variableDeclarations
    simp only [List.map_flatMap, List.map_map]
    rfl
  have hloop : loopDeclarations src' s = (loopDeclarations src s).map (·.reread src') := by
    unfold loopDeclarations
    split
    · rfl
    · rw [List.map_map]
      rfl
  have hown : ownDeclarations src' s = (ownDeclarations src s).map (·.reread src') := by
    unfold ownDeclarations
    simp only [apply_ite (List.map (Declaration.reread src')), List.map_map, hvariable, hloop]
    rfl
  have hparameter : parameterDeclarations src' s =
      (parameterDeclarations src s).map (·.reread src') := by
    unfold parameterDeclarations
    simp only [apply_ite (List.map (Declaration.reread src')), List.map_map]
    rfl
  refine ⟨?_, hparameter⟩
  rw [declarationsAt, declarationsAt, List.map_append, hown, hparameter]

/-! ## The second pass -/

section references

variable {r : Renaming} {t : Table} {src src' : Source} {a : Analysis} {s : Site}

/-- Changing an entry and renaming may be done in any order. -/
lemma Renaming.update_table {f : Entry → Entry} {c : Binding} (ht : r.IsFresh t)
    (hc : c.name ≠ r.name) (hf : ∀ e, f (r.entry e) = r.entry (f e)) :
    (r.table t).update (r.binding c) f = r.table (t.update c f) := by
  unfold table Table.update
  rw [List.map_map, List.map_map]
  refine List.map_congr_left fun e he => ?_
  have hname : e.binding.name ≠ r.name := ht _ (List.mem_map_of_mem he)
  change (if r.binding e.binding == r.binding c then f (r.entry e) else r.entry e) =
    r.entry (if e.binding == c then f e else e)
  by_cases heq : e.binding = c
  · rw [if_pos (by rw [heq]; exact beq_self_eq_true _), if_pos (beq_iff_eq.mpr heq), hf]
  · rw [if_neg (by simpa using (binding_inj hname hc).not.mpr heq), if_neg (by simpa using heq)]

/-- Taking in a use commutes with renaming. -/
lemma Renaming.refer_analysis (ht : r.IsFresh a.table) (hname : src.text s.node ≠ r.name)
    (htext : src'.text s.node = r.newName a.table s (src.text s.node)) :
    (r.analysis a).refer src' s = r.analysis (a.refer src s) := by
  have hrenamed : (r.analysis a).table.resolve s (src'.text s.node) =
      (a.table.resolve s (src.text s.node)).map r.entry := by
    rw [htext]
    exact resolve_table ht hname
  unfold Analysis.refer
  rw [hrenamed]
  cases hresolve : a.table.resolve s (src.text s.node) with
  | some e =>
    obtain ⟨scope, -, hfind⟩ := Table.resolve_eq_some_iff.mp hresolve
    have he := ht _ (List.mem_map_of_mem (Table.of_find? hfind).1)
    have huse : ∀ e, Entry.use s (r.entry e) = r.entry (Entry.use s e) := by
      intro e
      unfold Entry.use
      split <;> rfl
    have hupdate := update_table ht he huse
    dsimp only [Option.map_some]
    unfold analysis
    dsimp only
    rw [← hupdate]
    rfl
  | none =>
    have hnone : a.table.target? s (src.text s.node) ≠ some r.old := by
      rw [Table.target?, hresolve]
      simp
    rw [newName, if_neg hnone] at htext
    have hmay : Analysis.mayBeUndeclared src' s = Analysis.mayBeUndeclared src s := by
      rw [Analysis.mayBeUndeclared, htext, Analysis.mayBeUndeclared]
    dsimp only [Option.map_none]
    rw [hmay]
    split <;> rfl

/-- The second pass commutes with renaming. -/
lemma Renaming.foldl_refer_analysis {refs : List Site} (ht : r.IsFresh a.table)
    (hname : ∀ s ∈ refs, src.text s.node ≠ r.name)
    (htext : ∀ s ∈ refs, src'.text s.node = r.newName a.table s (src.text s.node)) :
    refs.foldl (Analysis.refer src') (r.analysis a) =
      r.analysis (refs.foldl (Analysis.refer src) a) := by
  induction refs generalizing a with
  | nil => rfl
  | cons s refs ih =>
    obtain ⟨hnameFirst, hname⟩ := List.forall_mem_cons.mp hname
    obtain ⟨htextFirst, htext⟩ := List.forall_mem_cons.mp htext
    rw [List.foldl_cons, List.foldl_cons, refer_analysis ht hnameFirst htextFirst]
    refine ih ?_ hname fun s' hs' => ?_
    · unfold IsFresh
      rw [Analysis.map_binding_refer]
      exact ht
    · rw [newName, Analysis.target?_refer]
      exact htext s' hs'

end references

/-! ## Texts with a new name -/

/-- The identifiers of a tree: those by their kind, and whatever declares a name. -/
def IsIdentifier (tree : Tree) (s : Site) : Prop :=
  IsSite tree s ∧ (s.kind ∈ referenceKinds ∨ s.kind ∈ Pattern.nameKinds ∨
    ∃ scope valued, Declares tree scope s valued)

/-- The identifiers that declare a variable, and those that refer to it. -/
def occurrences (src : Source) (tree : Tree) (b : Binding) : List Site :=
  ((declarations src tree).filter (·.binding == b)).map (·.ident) ++ usesIn src tree b

/-- Whether a text gives a variable a new name. -/
structure Renames (r : Renaming) (src src' : Source) (tree : Tree) : Prop where
  /-- No identifier has the new name so far. -/
  fresh : ∀ s, IsIdentifier tree s → src.text s.node ≠ r.name
  /-- Where the variable occurs, the new name stands. -/
  renamed : ∀ s ∈ occurrences src tree r.old, src'.text s.node = r.name
  /-- Other identifiers have the same name as before. -/
  kept : ∀ s, IsIdentifier tree s → s ∉ occurrences src tree r.old →
    src'.text s.node = src.text s.node

section texts

variable {r : Renaming} {src src' : Source} {tree : Tree} {b : Binding} {s : Site}

/-- A use of a name is an identifier. -/
lemma IsUse.isIdentifier (h : IsUse tree s) : IsIdentifier tree s := ⟨h.isSite, .inl h.kind⟩

/-- What a declaration declares is an identifier. -/
lemma isIdentifier_of_mem {d : Declaration} (hd : d ∈ declarations src tree) :
    IsIdentifier tree d.ident :=
  have hdeclares := (declares_of_mem hd).1
  ⟨hdeclares.isSite.2, .inr (.inr ⟨_, _, hdeclares⟩)⟩

/-- The uses of a binding are those that refer to it. -/
lemma mem_usesIn : s ∈ usesIn src tree b ↔
    IsUse tree s ∧ (analysisOf src tree).table.target? s (src.text s.node) = some b := by
  rw [usesIn, Analysis.usesOf, List.mem_filter, mem_references_iff, decide_eq_true_iff]

/-- An identifier that is declared occurs as the variable that it declares, and as no other. -/
lemma ident_mem_occurrences_iff {d : Declaration} (hd : d ∈ declarations src tree) :
    d.ident ∈ occurrences src tree b ↔ d.binding = b := by
  obtain ⟨hdeclares, hname⟩ := declares_of_mem hd
  constructor
  · intro h
    obtain h | h := List.mem_append.mp h
    · obtain ⟨d', hd', hident⟩ := List.mem_map.mp h
      obtain ⟨hd', hbinding⟩ := List.mem_filter.mp hd'
      obtain ⟨hdeclares', hname'⟩ := declares_of_mem hd'
      rw [hident] at hdeclares' hname'
      rw [← beq_iff_eq.mp hbinding, Declaration.binding, Declaration.binding,
        hdeclares.scope_unique hdeclares', hname, hname']
    · exact absurd hdeclares ((mem_usesIn.mp h).1.notDeclared _ _)
  · rintro rfl
    exact List.mem_append_left _
      (List.mem_map_of_mem (List.mem_filter.mpr ⟨hd, beq_self_eq_true _⟩))

/-- A use occurs as the variable that it refers to. -/
lemma IsUse.mem_occurrences_iff (hs : IsUse tree s) :
    s ∈ occurrences src tree b ↔
      (analysisOf src tree).table.target? s (src.text s.node) = some b := by
  rw [occurrences, List.mem_append, mem_usesIn, and_iff_right hs]
  refine or_iff_right fun h => ?_
  obtain ⟨d, hd, rfl⟩ := List.mem_map.mp h
  exact hs.notDeclared _ _ (declares_of_mem (List.mem_filter.mp hd).1).1

namespace Renames

variable (h : Renames r src src' tree)

include h

/-- Nothing that is declared has the new name. -/
lemma name_ne {d : Declaration} (hd : d ∈ declarations src tree) : d.name ≠ r.name := by
  rw [(declares_of_mem hd).2]
  exact h.fresh _ (isIdentifier_of_mem hd)

/-- Read from the text that is overwritten, a declaration is the renamed one. -/
lemma reread_eq {d : Declaration} (hd : d ∈ declarations src tree) :
    d.reread src' = r.declaration d := by
  have hname : src'.text d.ident.node = (r.binding d.binding).name := by
    by_cases hold : d.binding = r.old
    · rw [h.renamed _ ((ident_mem_occurrences_iff hd).mpr hold), hold, Renaming.binding_old]
    · rw [h.kept _ (isIdentifier_of_mem hd) ((ident_mem_occurrences_iff hd).not.mpr hold),
        Renaming.binding_of_ne hold, ← (declares_of_mem hd).2]
      rfl
  rw [Declaration.reread, hname]
  rfl

/-- The declarations are the renamed ones. -/
lemma declarations_eq : declarations src' tree = (declarations src tree).map r.declaration := by
  have hreread : declarations src' tree = (declarations src tree).map (·.reread src') := by
    have hat : declarationsAt src' = fun s => (declarationsAt src s).map (·.reread src') :=
      funext fun s => (declarationsAt_eq_map src src' s).1
    rw [declarations, declarations, hat, List.map_flatMap]
  rw [hreread]
  exact List.map_congr_left fun d hd => h.reread_eq hd

/-- The references are the same as before. -/
lemma references_eq :
    Analysis.references src' (Site.walk tree) = Analysis.references src (Site.walk tree) := by
  have hdeclaring : Analysis.declaring src' (Site.walk tree) =
      Analysis.declaring src (Site.walk tree) := by
    change (declarations src' tree).map _ = (declarations src tree).map _
    rw [h.declarations_eq, List.map_map]
    rfl
  rw [Analysis.references, hdeclaring, Analysis.references]

/-- The parameters are the renamed ones. -/
lemma parameters_eq :
    (Analysis.declared src' (Site.walk tree)).parameters =
      (Analysis.declared src (Site.walk tree)).parameters.map (·.map r.binding) := by
  unfold Analysis.declared
  dsimp only
  rw [List.map_map]
  refine List.map_congr_left fun s hs => ?_
  dsimp only [Function.comp]
  rw [(declarationsAt_eq_map src src' s).2, List.map_map, List.map_map]
  refine List.map_congr_left fun d hd => ?_
  have hmem : d ∈ declarations src tree := List.mem_flatMap.mpr
    ⟨s, (List.mem_filter.mp hs).1, List.mem_append_right _ hd⟩
  dsimp only [Function.comp]
  rw [h.reread_eq hmem, Renaming.binding_declaration]

/-- The new name is new to what is declared. -/
lemma isFresh_declared : r.IsFresh (Analysis.declared src (Site.walk tree)).table :=
  (Renaming.foldl_declare_table (t := []) (fun _ hd => h.name_ne hd) (List.forall_mem_nil _)).2

/-- What is declared is renamed. -/
lemma declared_eq :
    Analysis.declared src' (Site.walk tree) =
      r.analysis (Analysis.declared src (Site.walk tree)) := by
  have htable : (Analysis.declared src' (Site.walk tree)).table =
      r.table (Analysis.declared src (Site.walk tree)).table := by
    change (declarations src' tree).foldl Table.declare [] = _
    rw [h.declarations_eq]
    exact (Renaming.foldl_declare_table (t := []) (fun _ hd => h.name_ne hd)
      (List.forall_mem_nil _)).1
  rw [Renaming.analysis, ← h.parameters_eq, ← htable]
  rfl

/-- **Renaming a variable renames it in the analysis**, and changes nothing else there. -/
theorem analysis_eq : analysisOf src' tree = r.analysis (analysisOf src tree) := by
  unfold analysisOf Analysis.of
  rw [h.references_eq, h.declared_eq]
  refine Renaming.foldl_refer_analysis h.isFresh_declared (fun s hs => ?_) (fun s hs => ?_)
  · exact h.fresh _ (mem_references_iff.mp hs).isIdentifier
  · have huse := mem_references_iff.mp hs
    have htarget : (analysisOf src tree).table.target? s (src.text s.node) =
        (Analysis.declared src (Site.walk tree)).table.target? s (src.text s.node) :=
      Analysis.target?_foldl_refer _
    rw [Renaming.newName, ← htarget]
    split
    case isTrue hold => exact h.renamed _ (huse.mem_occurrences_iff.mpr hold)
    case isFalse hold => exact h.kept _ huse.isIdentifier (huse.mem_occurrences_iff.not.mpr hold)

/-- The new name is new to the analysis. -/
lemma isFresh_analysis : r.IsFresh (analysisOf src tree).table := by
  intro c hc
  obtain ⟨e, he, rfl⟩ := List.mem_map.mp hc
  obtain ⟨d, hd⟩ := List.exists_mem_of_ne_nil _ (sumsUp_of_mem he).declared
  obtain ⟨hd, hbinding⟩ := List.mem_filter.mp hd
  rw [← beq_iff_eq.mp hbinding]
  exact h.name_ne hd

end Renames

end texts

end Diagnosis.Lint
