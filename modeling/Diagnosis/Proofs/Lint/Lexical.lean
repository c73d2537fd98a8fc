import Diagnosis.Proofs.Lint.Scope
import Diagnosis.Proofs.Lint.Table

/-!
# Names are resolved lexically

What the analysis of a tree should say, in terms of the tree alone: `Declares` says which scope an
identifier is declared in, `IsUse` which identifiers use a variable, and the nearest enclosing scope
that declares the name of a use is the one that the use refers to. No order of passes and no table
come into this.

`Lexical` relates an analysis to it: which declarations share an entry, which entry each use refers
to, and which entries count as read, as assigned and as last written where.

* **Names are resolved lexically** (`lexical_of`): the analysis of any tree is lexical.

That nodes are told apart is not assumed: two places of a tree have different addresses. Nothing is
said of undefined names.
-/

namespace Diagnosis.Lint

open Diagnosis.Syntax

/-! ## What uses refer to -/

/-- Whether a name is declared in a scope. -/
def DeclaresName (src : Source) (tree : Tree) (name : String) (scope : Site) : Prop :=
  ∃ ident valued, Declares tree scope ident valued ∧ src.text ident.node = name

/-- An identifier that uses a variable. -/
structure IsUse (tree : Tree) (s : Site) : Prop where
  /-- It is a place of the tree. -/
  isSite : IsSite tree s
  /-- It is an identifier. -/
  kind : s.kind ∈ referenceKinds
  /-- It declares nothing. -/
  notDeclared : ∀ scope valued, ¬ Declares tree scope s valued
  /-- It is not the name of something else than a variable. -/
  usesVariable : usesVariable s = true

/-- Whether a site is the last of several that have a property. -/
def IsLast (p : Site → Prop) (sites : List Site) (s : Site) : Prop :=
  ∃ before after, sites = before ++ s :: after ∧ p s ∧ ∀ s' ∈ after, ¬ p s'

/-- The entry that the name of an identifier refers to. -/
def Analysis.lookup? (src : Source) (a : Analysis) (s : Site) : Option Entry :=
  a.table.resolve s (src.text s.node)

/-- An analysis that resolves the names of a tree lexically. -/
structure Lexical (src : Source) (tree : Tree) (a : Analysis) : Prop where
  /-- No binding has two entries. -/
  keyed : a.table.Keyed
  /-- An entry is that of a name in a scope, and has all identifiers that declare the name in the
  scope. -/
  idents : ∀ e ∈ a.table, ∃ scope, IsSite tree scope ∧ scope.address = e.binding.scope ∧
    DeclaresName src tree e.binding.name scope ∧
    ∀ ident, ident ∈ e.idents ↔
      (∃ valued, Declares tree scope ident valued) ∧ src.text ident.node = e.binding.name
  /-- Each identifier that is declared has an entry. -/
  declared : ∀ {scope ident valued}, Declares tree scope ident valued →
    ∃ e ∈ a.table, ident ∈ e.idents ∧ e.binding = ⟨scope.address, src.text ident.node⟩
  /-- Two identifiers share their entry if they declare the same name in the same scope. -/
  shared : ∀ {scope scope' ident ident' valued valued'},
    Declares tree scope ident valued → Declares tree scope' ident' valued' →
      ((∃ e ∈ a.table, ident ∈ e.idents ∧ ident' ∈ e.idents) ↔
        src.text ident.node = src.text ident'.node ∧ scope = scope')
  /-- A use refers to the entry of its name in the nearest enclosing scope that declares it. -/
  resolved : ∀ {s}, IsUse tree s → ∀ e, a.lookup? src s = some e ↔
    e ∈ a.table ∧ ∃ scope, s.IsNearest (DeclaresName src tree (src.text s.node)) scope ∧
      e.binding = ⟨scope.address, src.text s.node⟩
  /-- It refers to none if no enclosing scope declares its name. -/
  unresolved : ∀ {s}, IsUse tree s →
    (a.lookup? src s = none ↔ ∀ scope ∈ s.ancestors, ¬ DeclaresName src tree (src.text s.node) scope)
  /-- An entry is read if some use that refers to it does more than give it a value. -/
  read : ∀ e ∈ a.table,
    (e.read = true ↔ ∃ s, IsUse tree s ∧ a.lookup? src s = some e ∧ isWriteOnly s = false)
  /-- An entry is assigned if some declaration or some use that refers to it gives it a value. -/
  assigned : ∀ e ∈ a.table,
    (e.assigned = true ↔ (∃ ident ∈ e.idents, ∃ scope, Declares tree scope ident true) ∨
      ∃ s, IsUse tree s ∧ a.lookup? src s = some e ∧ isWriteOnly s = true)
  /-- Its last write is the last use in the text that only gives it a value. -/
  lastWrite : ∀ e ∈ a.table, ∀ s,
    (e.lastWrite? = some s ↔
      IsLast (fun s => IsUse tree s ∧ a.lookup? src s = some e ∧ isWriteOnly s = true)
        (Site.walk tree) s)

/-! ## The declarations of a tree -/

section declarations

variable {src : Source} {tree : Tree}

/-- All declarations of a tree. -/
def declarations (src : Source) (tree : Tree) : List Declaration :=
  (Site.walk tree).flatMap (declarationsAt src)

/-- Every declaration of the analysis is one in the tree. -/
lemma declares_of_mem {d : Declaration} (hd : d ∈ declarations src tree) :
    Declares tree d.scope d.ident d.hasValue ∧ d.name = src.text d.ident.node := by
  obtain ⟨s, hs, hd⟩ := List.mem_flatMap.mp hd
  obtain ⟨hdeclares, hname⟩ := declaresAt_of_mem (Site.mem_walk_iff.mp hs) hd
  exact ⟨⟨s, Site.mem_walk_iff.mp hs, hdeclares⟩, hname⟩

/-- Every declaration in the tree is one of the analysis. -/
lemma exists_mem_declarations (src : Source) {scope ident : Site} {valued : Bool}
    (h : Declares tree scope ident valued) :
    ∃ d ∈ declarations src tree, d.scope = scope ∧ d.ident = ident ∧ d.hasValue = valued ∧
      d.binding = ⟨scope.address, src.text ident.node⟩ := by
  obtain ⟨s, hs, h⟩ := h
  obtain ⟨d, hd, rfl, rfl, rfl⟩ := exists_mem_of_declaresAt src hs h
  refine ⟨d, List.mem_flatMap.mpr ⟨s, Site.mem_walk_iff.mpr hs, hd⟩, rfl, rfl, rfl, ?_⟩
  rw [Declaration.binding, (declaresAt_of_mem hs hd).2]

/-- A scope declares a name if some declaration makes this binding. -/
lemma exists_binding_iff {scope : Site} (hs : IsSite tree scope) {name : String} :
    (∃ d ∈ declarations src tree, d.binding = ⟨scope.address, name⟩) ↔
      DeclaresName src tree name scope := by
  constructor
  · rintro ⟨d, hd, hbinding⟩
    obtain ⟨hdeclares, hname⟩ := declares_of_mem hd
    obtain ⟨haddress, rfl⟩ := Binding.mk.inj hbinding
    obtain rfl := hdeclares.isSite.1.ext_address hs haddress
    exact ⟨d.ident, d.hasValue, hdeclares, hname.symm⟩
  · rintro ⟨ident, valued, hdeclares, rfl⟩
    obtain ⟨d, hd, -, -, -, hbinding⟩ := exists_mem_declarations src hdeclares
    exact ⟨d, hd, hbinding⟩

/-- The references of a tree are the uses of variables. -/
lemma mem_references_iff {s : Site} :
    s ∈ Analysis.references src (Site.walk tree) ↔ IsUse tree s := by
  have hdeclaring : ∀ {s}, IsSite tree s →
      (s.address ∈ Analysis.declaring src (Site.walk tree) ↔
        ∃ scope valued, Declares tree scope s valued) := by
    intro s hs
    constructor
    · intro h
      obtain ⟨d, hd, haddress⟩ := List.mem_map.mp h
      obtain ⟨hdeclares, -⟩ := declares_of_mem hd
      obtain rfl := hdeclares.isSite.2.ext_address hs haddress
      exact ⟨_, _, hdeclares⟩
    · rintro ⟨scope, valued, hdeclares⟩
      obtain ⟨d, hd, -, hident, -⟩ := exists_mem_declarations src hdeclares
      exact List.mem_map.mpr ⟨d, hd, by rw [hident]⟩
  unfold Analysis.references isReference
  rw [List.mem_filter, Site.mem_walk_iff]
  simp only [Bool.and_eq_true, Bool.not_eq_true', List.contains_iff_mem, ← Bool.not_eq_true]
  constructor
  · rintro ⟨hs, ⟨hkind, hnot⟩, huses⟩
    exact ⟨hs, hkind, fun scope valued h => hnot ((hdeclaring hs).mpr ⟨scope, valued, h⟩), huses⟩
  · rintro ⟨hs, hkind, hnot, huses⟩
    refine ⟨hs, ⟨hkind, fun h => ?_⟩, huses⟩
    obtain ⟨scope, valued, h⟩ := (hdeclaring hs).mp h
    exact hnot scope valued h

end declarations

/-! ## The entries of an analysis -/

/-- The last item that is selected is the last one of its kind. -/
lemma isLast_iff {p : Site → Bool} {sites : List Site} {s : Site} :
    (sites.filter p).getLast? = some s ↔ IsLast (p · = true) sites s := by
  unfold IsLast
  rw [List.getLast?_eq_head?_reverse, ← List.filter_reverse, List.head?_filter,
    List.find?_eq_some_iff_append]
  constructor
  · rintro ⟨hs, after, before, hsplit, hafter⟩
    refine ⟨before.reverse, after.reverse, ?_, hs, fun s' hs' => ?_⟩
    · rw [← List.reverse_reverse sites, hsplit]
      simp
    · simpa using hafter s' (List.mem_reverse.mp hs')
  · rintro ⟨before, after, rfl, hs, hafter⟩
    refine ⟨hs, after.reverse, before.reverse, by simp, fun s' hs' => ?_⟩
    simpa using hafter s' (List.mem_reverse.mp hs')

/-- Being the last of a kind is a matter of the kind. -/
lemma isLast_congr {p q : Site → Prop} {sites : List Site} {s : Site}
    (h : ∀ s ∈ sites, p s ↔ q s) : IsLast p sites s ↔ IsLast q sites s := by
  unfold IsLast
  refine exists_congr fun before => exists_congr fun after => and_congr_right fun hsplit => ?_
  rw [hsplit, List.forall_mem_append, List.forall_mem_cons] at h
  obtain ⟨-, hs, hafter⟩ := h
  rw [hs]
  exact and_congr_right fun _ => forall₂_congr fun s' hs' => not_congr (hafter s' hs')

section analysis

variable {src : Source} {tree : Tree}

/-- The analysis of a tree. -/
def analysisOf (src : Source) (tree : Tree) : Analysis := .of src (Site.walk tree)

/-- The uses that refer to a binding. -/
def usesIn (src : Source) (tree : Tree) (b : Binding) : List Site :=
  Analysis.usesOf src (analysisOf src tree).table (Analysis.references src (Site.walk tree)) b

/-- The table has every binding once. -/
lemma keyed_analysis : (analysisOf src tree).table.Keyed :=
  Analysis.keyed_foldl_refer _ (Table.keyed_foldl_declare _ List.nodup_nil)

/-- What the two passes together make of the entry of a binding. -/
lemma find?_analysis (b : Binding) :
    (analysisOf src tree).table.find? b =
      (Entry.ofAll ((declarations src tree).filter (·.binding == b))).map fun e =>
        (usesIn src tree b).foldl (fun e s => e.use s) e := by
  have huses : usesIn src tree b = Analysis.usesOf src
      (Analysis.declared src (Site.walk tree)).table
      (Analysis.references src (Site.walk tree)) b := by
    unfold usesIn Analysis.usesOf analysisOf Analysis.of
    simp only [Analysis.target?_foldl_refer]
  rw [huses, analysisOf, Analysis.of, Analysis.find?_foldl_refer]
  congr 1
  exact Table.find?_foldl_declare _ _

/-- A binding has an entry if its scope declares the name. -/
lemma isSome_find?_analysis {scope : Site} (hs : IsSite tree scope) {name : String} :
    ((analysisOf src tree).table.find? ⟨scope.address, name⟩).isSome = true ↔
      DeclaresName src tree name scope := by
  rw [find?_analysis, Option.isSome_map, ← exists_binding_iff hs, Option.isSome_iff_ne_none, Ne,
    Entry.ofAll_eq_none_iff, List.filter_eq_nil_iff]
  simp

/-- What the two passes make of an entry: it sums up the declarations of its binding and the uses that
refer to it. -/
structure Entry.SumsUp (src : Source) (tree : Tree) (e : Entry) : Prop where
  /-- There is a declaration. -/
  declared : (declarations src tree).filter (·.binding == e.binding) ≠ []
  /-- It has the identifiers of its declarations. -/
  idents : e.idents = ((declarations src tree).filter (·.binding == e.binding)).map (·.ident)
  /-- It is read by uses. -/
  read : e.read = (usesIn src tree e.binding).any fun s => !isWriteOnly s
  /-- It is assigned by declarations and by uses. -/
  assigned : e.assigned =
    (((declarations src tree).filter (·.binding == e.binding)).any (·.hasValue) ||
      (usesIn src tree e.binding).any isWriteOnly)
  /-- It is written by uses. -/
  lastWrite : e.lastWrite? = ((usesIn src tree e.binding).filter isWriteOnly).getLast?

/-- Every entry sums up what the tree says of its binding. -/
lemma sumsUp_of_mem {e : Entry} (he : e ∈ (analysisOf src tree).table) : e.SumsUp src tree := by
  have hfind := keyed_analysis.find?_eq_some_iff.mpr ⟨he, rfl⟩
  rw [find?_analysis] at hfind
  obtain ⟨e₀, hof, huse⟩ := Option.map_eq_some_iff.mp hfind
  obtain ⟨hidents₀, hassigned₀, hread₀, hlast₀⟩ := Entry.of_ofAll hof
  obtain ⟨-, hidents, hread, hassigned, hlast⟩ := Entry.foldl_use (usesIn src tree e.binding) e₀
  rw [huse] at hidents hread hassigned hlast
  constructor
  · intro hnil
    rw [Entry.ofAll_eq_none_iff.mpr hnil] at hof
    cases hof
  · exact hidents.trans hidents₀
  · rw [hread, hread₀, Bool.false_or]
  · rw [hassigned, hassigned₀]
  · rw [hlast, hlast₀, Option.or_none]

/-! ## What names refer to -/

/-- A name refers to its binding in the nearest enclosing scope that declares it. -/
lemma target?_analysis {s : Site} (hs : IsSite tree s) {name : String} {b : Binding} :
    (analysisOf src tree).table.target? s name = some b ↔
      ∃ scope, s.IsNearest (DeclaresName src tree name) scope ∧ b = ⟨scope.address, name⟩ := by
  have hnearest : ∀ {scope}, s.IsNearest (fun scope =>
      ((analysisOf src tree).table.find? ⟨scope.address, name⟩).isSome = true) scope ↔
        s.IsNearest (DeclaresName src tree name) scope := by
    exact Site.isNearest_congr fun scope hscope =>
      isSome_find?_analysis (hs.of_mem_ancestors hscope)
  unfold Table.target?
  rw [Option.map_eq_some_iff]
  constructor
  · rintro ⟨e, hresolve, rfl⟩
    obtain ⟨scope, hscope, hfind⟩ := Table.resolve_eq_some_iff.mp hresolve
    exact ⟨scope, hnearest.mp hscope, (Table.of_find? hfind).2⟩
  · rintro ⟨scope, hscope, rfl⟩
    obtain ⟨e, hfind⟩ := Option.isSome_iff_exists.mp (hnearest.mpr hscope).holds
    exact ⟨e, Table.resolve_eq_some_iff.mpr ⟨scope, hnearest.mpr hscope, hfind⟩,
      (Table.of_find? hfind).2⟩

/-- The uses of a binding are those that find its entry. -/
lemma mem_usesIn_iff {e : Entry} (he : e ∈ (analysisOf src tree).table) {s : Site} :
    s ∈ usesIn src tree e.binding ↔ IsUse tree s ∧ (analysisOf src tree).lookup? src s = some e := by
  unfold usesIn Analysis.usesOf Analysis.lookup?
  rw [List.mem_filter, mem_references_iff, keyed_analysis.resolve_eq_some_iff he,
    decide_eq_true_iff]

/-- A use finds the entry of the nearest scope around it that declares its name. -/
lemma lookup?_eq_some_iff {s : Site} (hs : IsSite tree s) {e : Entry} :
    (analysisOf src tree).lookup? src s = some e ↔
      e ∈ (analysisOf src tree).table ∧ ∃ scope,
        s.IsNearest (DeclaresName src tree (src.text s.node)) scope ∧
          e.binding = ⟨scope.address, src.text s.node⟩ := by
  rw [← target?_analysis hs]
  constructor
  · intro h
    obtain ⟨scope, -, hfind⟩ := Table.resolve_eq_some_iff.mp h
    have he := (Table.of_find? hfind).1
    exact ⟨he, (keyed_analysis.resolve_eq_some_iff he).mp h⟩
  · rintro ⟨he, h⟩
    exact (keyed_analysis.resolve_eq_some_iff he).mpr h

/-- A use finds nothing if no scope around it declares its name. -/
lemma lookup?_eq_none_iff {s : Site} (hs : IsSite tree s) :
    (analysisOf src tree).lookup? src s = none ↔
      ∀ scope ∈ s.ancestors, ¬ DeclaresName src tree (src.text s.node) scope := by
  rw [Analysis.lookup?, ← Option.map_eq_none_iff (f := Entry.binding)]
  constructor
  · intro hnone scope hscope hname
    obtain ⟨nearest, hnearest⟩ := Site.exists_isNearest hscope hname
    have htarget := (target?_analysis hs).mpr ⟨nearest, hnearest, rfl⟩
    cases hnone.symm.trans htarget
  · intro hnone
    rw [Option.eq_none_iff_forall_ne_some]
    intro b htarget
    obtain ⟨scope, hscope, -⟩ := (target?_analysis hs).mp htarget
    exact hnone scope hscope.mem_ancestors hscope.holds

/-! ## Which identifiers an entry has -/

/-- The identifiers of an entry declare its name in its scope. -/
lemma mem_idents_iff {e : Entry} (he : e ∈ (analysisOf src tree).table) {ident : Site} :
    ident ∈ e.idents ↔ ∃ scope valued, Declares tree scope ident valued ∧
      e.binding = ⟨scope.address, src.text ident.node⟩ := by
  rw [(sumsUp_of_mem he).idents, List.mem_map]
  constructor
  · rintro ⟨d, hd, rfl⟩
    obtain ⟨hd, hbinding⟩ := List.mem_filter.mp hd
    obtain ⟨hdeclares, hname⟩ := declares_of_mem hd
    refine ⟨d.scope, d.hasValue, hdeclares, ?_⟩
    rw [← beq_iff_eq.mp hbinding, ← hname]
    rfl
  · rintro ⟨scope, valued, hdeclares, hbinding⟩
    obtain ⟨d, hd, -, hident, -, hd'⟩ := exists_mem_declarations src hdeclares
    exact ⟨d, List.mem_filter.mpr ⟨hd, beq_iff_eq.mpr (hd'.trans hbinding.symm)⟩, hident⟩

/-- A declared identifier has an entry. -/
lemma exists_entry (src : Source) {scope ident : Site} {valued : Bool}
    (h : Declares tree scope ident valued) :
    ∃ e ∈ (analysisOf src tree).table,
      ident ∈ e.idents ∧ e.binding = ⟨scope.address, src.text ident.node⟩ := by
  obtain ⟨e, hfind⟩ := Option.isSome_iff_exists.mp
    ((isSome_find?_analysis h.isSite.1).mpr ⟨ident, valued, h, rfl⟩)
  obtain ⟨he, hbinding⟩ := Table.of_find? hfind
  exact ⟨e, he, (mem_idents_iff he).mpr ⟨scope, valued, h, hbinding⟩, hbinding⟩

/-- An entry is that of a name in a scope. -/
lemma exists_scope {e : Entry} (he : e ∈ (analysisOf src tree).table) :
    ∃ scope, IsSite tree scope ∧ scope.address = e.binding.scope ∧
      DeclaresName src tree e.binding.name scope ∧
      ∀ ident, ident ∈ e.idents ↔
        (∃ valued, Declares tree scope ident valued) ∧ src.text ident.node = e.binding.name := by
  obtain ⟨d, hd⟩ := List.exists_mem_of_ne_nil _ (sumsUp_of_mem he).declared
  obtain ⟨hd, hbinding⟩ := List.mem_filter.mp hd
  obtain ⟨hdeclares, hname⟩ := declares_of_mem hd
  rw [← beq_iff_eq.mp hbinding]
  refine ⟨d.scope, hdeclares.isSite.1, rfl, ⟨d.ident, d.hasValue, hdeclares, hname.symm⟩,
    fun ident => ?_⟩
  rw [mem_idents_iff he, ← beq_iff_eq.mp hbinding]
  constructor
  · rintro ⟨scope, valued, h, heq⟩
    obtain ⟨haddress, hname⟩ := Binding.mk.inj heq
    obtain rfl := hdeclares.isSite.1.ext_address h.isSite.1 haddress
    exact ⟨⟨valued, h⟩, hname.symm⟩
  · rintro ⟨⟨valued, h⟩, hname⟩
    exact ⟨d.scope, valued, h, by rw [hname]; rfl⟩

/-- Identifiers share an entry if they declare the same name in the same scope. -/
lemma share_entry_iff {scope scope' ident ident' : Site} {valued valued' : Bool}
    (h : Declares tree scope ident valued) (h' : Declares tree scope' ident' valued') :
    (∃ e ∈ (analysisOf src tree).table, ident ∈ e.idents ∧ ident' ∈ e.idents) ↔
      src.text ident.node = src.text ident'.node ∧ scope = scope' := by
  constructor
  · rintro ⟨e, he, hident, hident'⟩
    obtain ⟨scope₁, _, h₁, hbinding⟩ := (mem_idents_iff he).mp hident
    obtain ⟨scope₂, _, h₂, hbinding'⟩ := (mem_idents_iff he).mp hident'
    rw [h₁.scope_unique h] at hbinding
    rw [h₂.scope_unique h', hbinding] at hbinding'
    obtain ⟨haddress, hname⟩ := Binding.mk.inj hbinding'
    exact ⟨hname, h.isSite.1.ext_address h'.isSite.1 haddress⟩
  · rintro ⟨hname, rfl⟩
    obtain ⟨e, he, hident, hbinding⟩ := exists_entry src h
    exact ⟨e, he, hident, (mem_idents_iff he).mpr ⟨scope, valued', h', by rw [hbinding, hname]⟩⟩

/-! ## What an entry says of its uses -/

/-- An entry gets a value by a declaration if one of its declarations comes with a value. -/
lemma any_hasValue_iff {e : Entry} (he : e ∈ (analysisOf src tree).table) :
    ((declarations src tree).filter (·.binding == e.binding)).any (·.hasValue) = true ↔
      ∃ ident ∈ e.idents, ∃ scope, Declares tree scope ident true := by
  rw [List.any_eq_true]
  constructor
  · rintro ⟨d, hd, hvalue⟩
    refine ⟨d.ident, ?_, d.scope, hvalue ▸ (declares_of_mem (List.mem_filter.mp hd).1).1⟩
    rw [(sumsUp_of_mem he).idents]
    exact List.mem_map_of_mem hd
  · rintro ⟨ident, hident, scope, hdeclares⟩
    obtain ⟨scope', valued, hdeclares', hbinding⟩ := (mem_idents_iff he).mp hident
    rw [hdeclares'.scope_unique hdeclares] at hbinding
    obtain ⟨d, hd, -, -, hvalue, hd'⟩ := exists_mem_declarations src hdeclares
    exact ⟨d, List.mem_filter.mpr ⟨hd, beq_iff_eq.mpr (hd'.trans hbinding.symm)⟩, hvalue⟩

/-- A binding is read if one of its uses is not for writing only. -/
lemma read_iff {e : Entry} (he : e ∈ (analysisOf src tree).table) :
    e.read = true ↔ ∃ s, IsUse tree s ∧ (analysisOf src tree).lookup? src s = some e ∧
      isWriteOnly s = false := by
  rw [(sumsUp_of_mem he).read, List.any_eq_true]
  simp only [mem_usesIn_iff he, Bool.not_eq_true', and_assoc]

/-- A binding is assigned if a declaration gives it a value, or a use only writes it. -/
lemma assigned_iff {e : Entry} (he : e ∈ (analysisOf src tree).table) :
    e.assigned = true ↔ (∃ ident ∈ e.idents, ∃ scope, Declares tree scope ident true) ∨
      ∃ s, IsUse tree s ∧ (analysisOf src tree).lookup? src s = some e ∧ isWriteOnly s = true := by
  rw [(sumsUp_of_mem he).assigned, Bool.or_eq_true, any_hasValue_iff he, List.any_eq_true]
  simp only [mem_usesIn_iff he, and_assoc]

/-- The uses that refer to a binding come in the order of the text. -/
lemma usesIn_eq_filter (src : Source) (tree : Tree) (b : Binding) :
    ∃ p : Site → Bool, usesIn src tree b = (Site.walk tree).filter p := by
  unfold usesIn Analysis.usesOf Analysis.references
  rw [List.filter_filter]
  exact ⟨_, rfl⟩

/-- The last write of an entry is the last one in the text. -/
lemma lastWrite?_eq_some_iff {e : Entry} (he : e ∈ (analysisOf src tree).table) {s : Site} :
    e.lastWrite? = some s ↔
      IsLast (fun s => IsUse tree s ∧ (analysisOf src tree).lookup? src s = some e ∧
        isWriteOnly s = true) (Site.walk tree) s := by
  obtain ⟨p, hp⟩ := usesIn_eq_filter src tree e.binding
  have huse : ∀ s ∈ Site.walk tree, p s = true ↔
      IsUse tree s ∧ (analysisOf src tree).lookup? src s = some e := by
    intro s hs
    rw [← mem_usesIn_iff he, hp, List.mem_filter, and_iff_right hs]
  rw [(sumsUp_of_mem he).lastWrite, hp, List.filter_filter, isLast_iff]
  refine isLast_congr fun s hs => ?_
  rw [Bool.and_eq_true, huse s hs, and_comm, and_assoc]

end analysis

/-! ## The analysis is lexical -/

/-- **Names are resolved lexically**, in every tree. -/
theorem lexical_of (src : Source) (tree : Tree) : Lexical src tree (.of src (Site.walk tree)) where
  keyed := keyed_analysis
  idents _ := exists_scope
  declared := exists_entry src
  shared := share_entry_iff
  resolved hs _ := lookup?_eq_some_iff hs.isSite
  unresolved hs := lookup?_eq_none_iff hs.isSite
  read _ := read_iff
  assigned _ := assigned_iff
  lastWrite _ he _ := lastWrite?_eq_some_iff he

/-- In `x; var x`, the use comes before the declaration and refers to it all the same. -/
example :
    let name := { kind := "identifier", start := 7, stop := 8, field := some "name" }
    let declarator := { kind := "variable_declarator", start := 7, stop := 8, children := [name] }
    let tree : Tree :=
      { kind := "program", start := 0, stop := 8
        children := [
          { kind := "expression_statement", start := 0, stop := 2
            children := [{ kind := "identifier", start := 0, stop := 1 }] },
          { kind := "variable_declaration", start := 3, stop := 8, children := [declarator] }] }
    let a := Analysis.of (.ofBytes (Text.encodeString "x; var x")) (Site.walk tree)
    a.undefined.length = 0 ∧ a.table.map (fun e => (e.binding.name, e.read)) = [("x", true)] := by
  decide +kernel

end Diagnosis.Lint
