import Diagnosis.Proofs.Lint.Lexical

/-!
# Bindings and their uses

What a tree says of a binding, without a table: which identifiers refer to it, which of these read it and
which write it, and whether it gets a value. `RefersTo` is the lexical rule.

The entry of a binding says the same (`read_eq_true_iff`, `assigned_eq_true_iff`,
`lastWrite?_eq_some_iff_writes`), and the bindings that have an entry are those that are declared
(`exists_binding_eq_iff`).
-/

namespace Diagnosis.Lint

open Diagnosis.Syntax

section use

variable (src : Source) (tree : Tree)

/-- Whether a tree declares a binding. -/
def IsDeclared (b : Binding) : Prop :=
  ∃ scope ident valued, Declares tree scope ident valued ∧ b = ⟨scope.address, src.text ident.node⟩

/-- Whether an identifier refers to a binding: that of its name in the nearest enclosing scope that declares
the name. -/
def RefersTo (s : Site) (b : Binding) : Prop :=
  ∃ scope, s.IsNearest (DeclaresName src tree (src.text s.node)) scope ∧
    b = ⟨scope.address, src.text s.node⟩

/-- Whether an identifier takes the value of a binding. -/
def Reads (s : Site) (b : Binding) : Prop :=
  IsUse tree s ∧ RefersTo src tree s b ∧ isWriteOnly s = false

/-- Whether an identifier gives a binding a value, and does nothing else with it. -/
def Writes (s : Site) (b : Binding) : Prop :=
  IsUse tree s ∧ RefersTo src tree s b ∧ isWriteOnly s = true

/-- Whether the value of a binding is used. -/
def IsRead (b : Binding) : Prop := ∃ s, Reads src tree s b

/-- Whether a binding gets a value, when it is declared or later. -/
def IsAssigned (b : Binding) : Prop :=
  (∃ scope ident, Declares tree scope ident true ∧ b = ⟨scope.address, src.text ident.node⟩) ∨
    ∃ s, Writes src tree s b

end use

section entries

variable {src : Source} {tree : Tree} {e : Entry} {s : Site} {b : Binding}

/-- An identifier refers to a binding only if an enclosing scope declares its name. -/
lemma exists_refersTo_iff :
    (∃ b, RefersTo src tree s b) ↔ ∃ scope ∈ s.ancestors, DeclaresName src tree (src.text s.node) scope := by
  constructor
  · rintro ⟨b, scope, hscope, -⟩
    exact ⟨scope, hscope.mem_ancestors, hscope.holds⟩
  · rintro ⟨scope, hscope, hname⟩
    obtain ⟨nearest, hnearest⟩ := Site.exists_isNearest hscope hname
    exact ⟨_, nearest, hnearest, rfl⟩

/-- An identifier is looked up under the binding that it refers to. -/
lemma lookup?_eq_some_iff_refersTo (he : e ∈ (analysisOf src tree).table) (hs : IsSite tree s) :
    (analysisOf src tree).lookup? src s = some e ↔ RefersTo src tree s e.binding := by
  rw [lookup?_eq_some_iff hs, and_iff_right he, RefersTo]

/-- An entry says whether its binding is read. -/
lemma read_eq_true_iff (he : e ∈ (analysisOf src tree).table) :
    e.read = true ↔ IsRead src tree e.binding := by
  rw [read_iff he]
  refine exists_congr fun s => and_congr_right fun hs => ?_
  rw [lookup?_eq_some_iff_refersTo he hs.isSite]

/-- A use that only gives a value is a write. -/
lemma writes_iff (he : e ∈ (analysisOf src tree).table) :
    (IsUse tree s ∧ (analysisOf src tree).lookup? src s = some e ∧ isWriteOnly s = true) ↔
      Writes src tree s e.binding := by
  refine and_congr_right fun hs => ?_
  rw [lookup?_eq_some_iff_refersTo he hs.isSite]

/-- An entry says whether its binding is assigned. -/
lemma assigned_eq_true_iff (he : e ∈ (analysisOf src tree).table) :
    e.assigned = true ↔ IsAssigned src tree e.binding := by
  rw [assigned_iff he, IsAssigned]
  simp only [writes_iff he]
  refine or_congr_left ⟨?_, ?_⟩
  · rintro ⟨ident, hident, scope, hdeclares⟩
    obtain ⟨scope', valued, hdeclares', hbinding⟩ := (mem_idents_iff he).mp hident
    rw [hdeclares'.scope_unique hdeclares] at hbinding
    exact ⟨scope, ident, hdeclares, hbinding⟩
  · rintro ⟨scope, ident, hdeclares, hbinding⟩
    exact ⟨ident, (mem_idents_iff he).mpr ⟨scope, true, hdeclares, hbinding⟩, scope, hdeclares⟩

/-- An entry says which of the writes is the last one. -/
lemma lastWrite?_eq_some_iff_writes (he : e ∈ (analysisOf src tree).table) :
    e.lastWrite? = some s ↔ IsLast (Writes src tree · e.binding) (Site.walk tree) s := by
  rw [lastWrite?_eq_some_iff he]
  exact isLast_congr fun s _ => writes_iff he

/-- An entry has no last write if nothing writes its binding. -/
lemma lastWrite?_eq_none_iff (he : e ∈ (analysisOf src tree).table) :
    e.lastWrite? = none ↔ ∀ s, ¬ Writes src tree s e.binding := by
  rw [(sumsUp_of_mem he).lastWrite, List.getLast?_eq_none_iff, List.filter_eq_nil_iff]
  refine forall_congr' fun s => ?_
  rw [← writes_iff he, mem_usesIn_iff he]
  tauto

/-- The bindings that have an entry are those that are declared. -/
lemma exists_binding_eq_iff :
    (∃ e ∈ (analysisOf src tree).table, e.binding = b) ↔ IsDeclared src tree b := by
  constructor
  · rintro ⟨e, he, rfl⟩
    obtain ⟨d, hd⟩ := List.exists_mem_of_ne_nil _ (sumsUp_of_mem he).declared
    obtain ⟨hd, hbinding⟩ := List.mem_filter.mp hd
    obtain ⟨hdeclares, hname⟩ := declares_of_mem hd
    refine ⟨d.scope, d.ident, d.hasValue, hdeclares, ?_⟩
    rw [← beq_iff_eq.mp hbinding, ← hname]
    rfl
  · rintro ⟨scope, ident, valued, hdeclares, rfl⟩
    obtain ⟨e, he, -, hbinding⟩ := exists_entry src hdeclares
    exact ⟨e, he, hbinding⟩

/-- The analysis knows which bindings are read. -/
lemma isRead_eq_true_iff (hb : IsDeclared src tree b) :
    (analysisOf src tree).isRead b = true ↔ IsRead src tree b := by
  obtain ⟨e, he, rfl⟩ := exists_binding_eq_iff.mpr hb
  rw [Analysis.isRead, keyed_analysis.find?_eq_some_iff.mpr ⟨he, rfl⟩, Option.map_some, Option.getD_some]
  exact read_eq_true_iff he

end entries

/-! ## What the parent of an identifier says -/

section parent

variable {src : Source} {s p : Site}

/-- Nodes that may write a variable, and nothing else, by an identifier below them. -/
def writingKinds : List String :=
  ["assignment_expression", "augmented_assignment_expression", "update_expression"]

/-- An identifier uses a variable unless it is a name of markup or of an export, or is imported. -/
lemma usesVariable_of_parent (hp : s.parent? = some p) (hmarkup : p.kind ∉ markupNameKinds)
    (hspecifier : p.kind ≠ "export_specifier") :
    usesVariable s = !s.hasAncestor "import_statement" := by
  simp [usesVariable, hp, hmarkup, hspecifier]

/-- Only below a node that writes is an identifier only written. -/
lemma isWriteOnly_of_parent (hp : s.parent? = some p) (hkind : p.kind ∉ writingKinds) :
    isWriteOnly s = false := by
  simp only [writingKinds, List.mem_cons, List.not_mem_nil, or_false, not_or] at hkind
  simp [isWriteOnly, hp, hkind]

/-- Outside of operators, only names of globals may be undeclared. -/
lemma mayBeUndeclared_of_parent (hp : s.parent? = some p) (hkind : p.kind ≠ "unary_expression") :
    Analysis.mayBeUndeclared src s = isGlobal (src.text s.node) := by
  simp [Analysis.mayBeUndeclared, isTypeofOperand, hp, hkind]

end parent

end Diagnosis.Lint
