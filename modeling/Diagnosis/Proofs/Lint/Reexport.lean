import Diagnosis.Proofs.Lint.NameReport
import Diagnosis.Proofs.Lint.Use

/-!
# Names that are handed on

`export {a as b} from "m"` and `export * as ns from "m"` hand on what another module exports, so none of
their names is that of a variable. The rules on names notice them all the same: they ask whether an
identifier is the alias of a specifier or inside an import, and never whether an export has a source.

* `isUnnoticed_iff`: an identifier goes unnoticed if it is no use, or if it is one that makes no
  difference, neither to what is undefined nor to what is read.
* **Handed-on names are noticed** (`isUnnoticed_handedOn_iff`), but for the aliases and for the globals that
  nobody declares. So `export {a} from "m"` alone has an undefined `a`, and behind a `const a` that nobody
  uses it counts as its use.
-/

namespace Diagnosis.Lint

open Diagnosis.Syntax

/-! ## What goes unnoticed -/

/-- Whether an identifier is neither reported as undefined nor taken for a use of a variable. -/
def IsUnnoticed (src : Source) (tree : Tree) (s : Site) : Prop :=
  s ∉ (analysisOf src tree).undefined ∧ ∀ b, ¬ Reads src tree s b

section unnoticed

variable {src : Source} {tree : Tree} {s : Site}

/-- A use makes no difference if it only writes a variable, or if it needs none and there is none. -/
lemma isUnnoticed_iff :
    IsUnnoticed src tree s ↔ (IsUse tree s →
      (∃ scope ∈ s.ancestors, DeclaresName src tree (src.text s.node) scope) ∧ isWriteOnly s = true ∨
        (∀ scope ∈ s.ancestors, ¬ DeclaresName src tree (src.text s.node) scope) ∧
          Analysis.mayBeUndeclared src s = true) := by
  have hreads : (∃ b, Reads src tree s b) ↔ IsUse tree s ∧
      (∃ scope ∈ s.ancestors, DeclaresName src tree (src.text s.node) scope) ∧
        isWriteOnly s = false := by
    rw [← exists_refersTo_iff]
    constructor
    · rintro ⟨b, huse, hrefers, hwrite⟩
      exact ⟨huse, ⟨b, hrefers⟩, hwrite⟩
    · rintro ⟨huse, ⟨b, hrefers⟩, hwrite⟩
      exact ⟨b, huse, hrefers, hwrite⟩
  have hnone : (∀ scope ∈ s.ancestors, ¬ DeclaresName src tree (src.text s.node) scope) ↔
      ¬ ∃ scope ∈ s.ancestors, DeclaresName src tree (src.text s.node) scope := by simp
  rw [IsUnnoticed, ← not_exists, mem_undefined_iff_undeclared, hreads, hnone]
  by_cases hdeclared : ∃ scope ∈ s.ancestors, DeclaresName src tree (src.text s.node) scope
  · simp [eq_true hdeclared]
  · simp [eq_false hdeclared]

end unnoticed

/-! ## Names that are handed on -/

/-- Parts of an export that hold its names. -/
def exportPartKinds : List String := ["export_specifier", "namespace_export"]

/-- An identifier of an export from another module. -/
structure IsHandedOn (tree : Tree) (s : Site) : Prop where
  /-- It is a place of the tree. -/
  isSite : IsSite tree s
  /-- It is an identifier. -/
  kind : s.kind ∈ referenceKinds
  /-- It is a name of the export. -/
  part : ∃ p, s.parent? = some p ∧ p.kind ∈ exportPartKinds
  /-- The export has a source. -/
  hasSource : ∃ e ∈ s.ancestors, e.kind = "export_statement" ∧ (e.childAt? "source").isSome
  /-- It is no import. -/
  notImported : s.hasAncestor "import_statement" = false

/-- Whether an identifier is the name that an export gives to something. -/
def isExportAlias (s : Site) : Bool := s.isBelow "export_specifier" && s.hasRole "alias"

section handedOn

variable {src : Source} {tree : Tree} {s scope ident : Site} {valued : Bool}

/-- A handed-on name declares nothing. -/
lemma IsHandedOn.not_declares (hs : IsHandedOn tree s) : ¬ Declares tree scope s valued := by
  intro hdeclares
  obtain ⟨p, hp, hkind⟩ := hs.part
  obtain ⟨hwhole, hnot⟩ := (show ∀ kind ∈ exportPartKinds, kind ∉ partKinds ∧ kind ∉ declaringKinds
    by decide) _ hkind
  -- looking upward from the name, the part of the export is the first that could declare it
  have hconstruct : construct? s = some p := by
    cases hs.isSite with
    | root => exact absurd hp nofun
    | child hparent hc =>
      obtain rfl := Option.some.inj hp
      exact construct?_of_whole hwhole (Site.mem_children.mpr ⟨_, _, hc, rfl⟩)
  exact hnot (hdeclares.kind_mem hconstruct)

/-- All handed-on names but the aliases are taken for uses of variables. -/
lemma IsHandedOn.isUse_iff (hs : IsHandedOn tree s) : IsUse tree s ↔ isExportAlias s = false := by
  obtain ⟨p, hp, hkind⟩ := hs.part
  have hmarkup := (show ∀ kind ∈ exportPartKinds, kind ∉ markupNameKinds by decide) _ hkind
  have huses : usesVariable s = !isExportAlias s := by
    unfold usesVariable isExportAlias Site.isBelow Site.parentKind?
    rw [hp]
    simp [hmarkup, hs.notImported]
  constructor
  · intro huse
    simpa [huses] using huse.usesVariable
  · intro halias
    exact ⟨hs.isSite, hs.kind, fun _ _ => hs.not_declares, by rw [huses, halias]; rfl⟩

/-- A handed-on name is not the target of an assignment. -/
lemma IsHandedOn.isWriteOnly_eq_false (hs : IsHandedOn tree s) : isWriteOnly s = false := by
  obtain ⟨p, hp, hkind⟩ := hs.part
  exact isWriteOnly_of_parent hp ((show ∀ kind ∈ exportPartKinds, kind ∉ writingKinds by decide) _ hkind)

/-- Nor is it the operand of `typeof`. -/
lemma IsHandedOn.mayBeUndeclared_eq (hs : IsHandedOn tree s) :
    Analysis.mayBeUndeclared src s = isGlobal (src.text s.node) := by
  obtain ⟨p, hp, hkind⟩ := hs.part
  exact mayBeUndeclared_of_parent hp
    ((show ∀ kind ∈ exportPartKinds, kind ≠ "unary_expression" by decide) _ hkind)

/-- **Handed-on names are noticed.** The rules let alone the aliases, which are no uses, and the globals that
nobody declares; every other name that an export takes from another module is reported as undefined or
counts as a use of the variable of this name. -/
theorem isUnnoticed_handedOn_iff (hs : IsHandedOn tree s) :
    IsUnnoticed src tree s ↔ isExportAlias s = true ∨ isGlobal (src.text s.node) = true ∧
      ∀ scope ∈ s.ancestors, ¬ DeclaresName src tree (src.text s.node) scope := by
  rw [isUnnoticed_iff, hs.isUse_iff, hs.isWriteOnly_eq_false, hs.mayBeUndeclared_eq]
  cases halias : isExportAlias s with
  | true => simp
  | false => simp [and_comm]

end handedOn

/-- The tree of `const a = 1; export {a as b} from "m"`. -/
def handingOnTree : Tree :=
  let identifier start field : Tree :=
    { kind := "identifier", start, stop := start + 1, field := some field }
  { kind := "program", start := 0, stop := 37
    children := [
      { kind := "lexical_declaration", start := 0, stop := 12
        children := [
          { kind := "variable_declarator", start := 6, stop := 11
            children := [identifier 6 "name",
              { kind := "number", start := 10, stop := 11, field := some "value" }] }] },
      { kind := "export_statement", start := 13, stop := 37
        children := [
          { kind := "export_clause", start := 20, stop := 28
            children := [
              { kind := "export_specifier", start := 21, stop := 27
                children := [identifier 21 "name", identifier 26 "alias"] }] },
          { kind := "string", start := 34, stop := 37, field := some "source" }] }] }

/-- In `const a = 1; export {a as b} from "m"`, the alias goes unnoticed, and `a` counts as a use. -/
theorem isUnnoticed_handedOn_iff_alias :
    let src := Source.ofBytes (Text.encodeString "const a = 1; export \x7ba as b\x7d from \"m\"")
    let names := (Site.walk handingOnTree).filter (·.isBelow "export_specifier")
    names.map (src.text ·.node) = ["a", "b"] ∧
      ∀ s ∈ names, IsHandedOn handingOnTree s ∧
        (IsUnnoticed src handingOnTree s ↔ src.text s.node = "b") := by
  intro src names
  have hnames : ∀ s ∈ names, s.kind ∈ referenceKinds ∧
      (∃ p ∈ s.parent?, p.kind ∈ exportPartKinds) ∧
      (∃ e ∈ s.ancestors, e.kind = "export_statement" ∧ (e.childAt? "source").isSome = true) ∧
      s.hasAncestor "import_statement" = false ∧ isGlobal (src.text s.node) = false ∧
      isExportAlias s = decide (src.text s.node = "b") := by decide +kernel
  refine ⟨by decide +kernel, fun s hs => ?_⟩
  obtain ⟨hkind, hpart, hsource, hnot, hglobal, halias⟩ := hnames s hs
  have hhanded : IsHandedOn handingOnTree s :=
    ⟨Site.mem_walk_iff.mp (List.mem_of_mem_filter hs), hkind, hpart, hsource, hnot⟩
  refine ⟨hhanded, ?_⟩
  rw [isUnnoticed_handedOn_iff hhanded, halias, hglobal]
  simp

end Diagnosis.Lint
