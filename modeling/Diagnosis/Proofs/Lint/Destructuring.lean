import Diagnosis.Proofs.Lint.NameReport
import Diagnosis.Proofs.Lint.Use

/-!
# Names that destructuring assigns

`[a, ...b] = v` and `({a, c: [d = 1]} = v)` give values to the names of a pattern, as `a = v` does to one. The
rules on names do not see this: an identifier counts as written only if it stands on the left of an assignment
itself, and the shorthand names of a pattern are not among the identifiers that they look at.

* `IsTakenAsTarget`: what a name that gets a value should be taken for. The target of a plain assignment is
  taken for that (`isTakenAsTarget_target`).
* **Destructuring is not taken for assignment** (`isTakenAsTarget_destructured_iff`). A name that it assigns
  is taken for a target only if nobody declares it, and if it is global or no shorthand. A variable is never
  written in this way: it is read instead, or the rules do not notice.
-/

namespace Diagnosis.Lint

open Diagnosis.Syntax Diagnosis.Lint.Pattern

/-! ## Targets -/

/-- Whether an identifier is taken for one that gets a value. -/
structure IsTakenAsTarget (src : Source) (tree : Tree) (s : Site) : Prop where
  /-- If no enclosing scope declares its name, it is undefined unless it is global. -/
  undefined : (∀ scope ∈ s.ancestors, ¬ DeclaresName src tree (src.text s.node) scope) →
    isGlobal (src.text s.node) = false → s ∈ (analysisOf src tree).undefined
  /-- Else it writes the binding that it refers to, and does not read it. -/
  written : ∀ b, RefersTo src tree s b → Writes src tree s b ∧ ¬ Reads src tree s b

/-- An identifier of a kind that the rules on names look at, and not inside an import. -/
def IsPlain (s : Site) : Prop := s.kind = "identifier" ∧ s.hasAncestor "import_statement" = false

section target

variable {src : Source} {tree : Tree} {s assignment : Site}

/-- The target of a plain assignment is taken for one. -/
theorem isTakenAsTarget_target (hs : IsPlain s) (hassignment : IsSite tree assignment)
    (hkind : assignment.kind = "assignment_expression") (hleft : assignment.childAt? "left" = some s) :
    IsTakenAsTarget src tree s := by
  obtain ⟨hident, himport⟩ := hs
  have hchild := (Site.mem_of_childAt? hleft).1
  have hparent : s.parent? = some assignment := by
    obtain ⟨i, c, -, rfl⟩ := Site.mem_children.mp hchild
    rfl
  have hconstruct : construct? s = some assignment := construct?_of_whole (hkind ▸ by decide) hchild
  have huse : IsUse tree s :=
    { isSite := hassignment.of_mem_children hchild
      kind := hident ▸ by decide
      notDeclared := fun scope valued h =>
        absurd (h.kind_mem hconstruct) (hkind ▸ by decide)
      usesVariable := by
        rw [usesVariable_of_parent hparent (hkind ▸ by decide) (hkind ▸ by decide), himport]
        rfl }
  have hwrite : isWriteOnly s = true := by
    simp [isWriteOnly, hparent, hkind, Site.hasRole, hleft, Site.same]
  refine ⟨fun hnone hglobal => ?_, fun b hb => ⟨⟨huse, hb, hwrite⟩, fun hreads => ?_⟩⟩
  · refine mem_undefined_iff_undeclared.mpr ⟨huse, hnone, ?_⟩
    rw [mayBeUndeclared_of_parent hparent (hkind ▸ by decide), hglobal]
  · exact Bool.noConfusion (hwrite.symm.trans hreads.2.2)

end target

/-! ## Patterns on the left of an assignment -/

/-- Patterns that stand on the left of an assignment. -/
def destructuringKinds : List String := ["object_pattern", "array_pattern"]

/-- Whether an identifier is one of those that a destructuring assignment gives values to. -/
def IsDestructured (tree : Tree) (s : Site) : Prop :=
  ∃ assignment pattern, IsSite tree assignment ∧ assignment.kind = "assignment_expression" ∧
    assignment.childAt? "left" = some pattern ∧ pattern.kind ∈ destructuringKinds ∧ Binds pattern s

section destructured

variable {src : Source} {tree : Tree} {s : Site}

/-- What is destructured is a node of the tree. -/
lemma IsDestructured.isSite (hs : IsDestructured tree s) : IsSite tree s := by
  obtain ⟨assignment, pattern, hassignment, -, hleft, -, hbinds⟩ := hs
  exact hbinds.isSite (hassignment.of_mem_children (Site.mem_of_childAt? hleft).1)

/-- It is a name. -/
lemma IsDestructured.kind_mem (hs : IsDestructured tree s) : s.kind ∈ nameKinds := by
  obtain ⟨_, _, -, -, -, -, hbinds⟩ := hs
  exact hbinds.kind_mem

/-- It is inside a part of a pattern, and that part is its parent. -/
lemma IsDestructured.exists_parent (hs : IsDestructured tree s) :
    ∃ p, s.parent? = some p ∧ p.kind ∈ partKinds := by
  obtain ⟨_, pattern, -, -, -, hkind, hbinds⟩ := hs
  have hname := (show ∀ kind ∈ destructuringKinds, kind ∉ nameKinds by decide) _ hkind
  obtain ⟨part, hpart, hmem⟩ := hbinds.exists_part hname
  obtain ⟨i, c, -, rfl⟩ := Site.mem_children.mp hmem
  exact ⟨part, rfl, hpart⟩

/-- It declares nothing: what one finds looking upward is the assignment. -/
lemma IsDestructured.not_declares (hs : IsDestructured tree s) {scope : Site} {valued : Bool} :
    ¬ Declares tree scope s valued := by
  obtain ⟨assignment, pattern, -, hassignment, hleft, -, hbinds⟩ := hs
  have hconstruct : construct? s = some assignment := by
    rw [hbinds.construct?_eq]
    exact construct?_of_whole (hassignment ▸ by decide) (Site.mem_of_childAt? hleft).1
  intro hdeclares
  exact absurd (hdeclares.kind_mem hconstruct) (hassignment ▸ by decide)

/-- The shorthand names of a pattern are not taken for uses. -/
lemma IsDestructured.isUse_iff (hs : IsDestructured tree s) : IsUse tree s ↔ IsPlain s := by
  obtain ⟨p, hp, hpart⟩ := hs.exists_parent
  obtain ⟨hmarkup, hspecifier⟩ := (show ∀ kind ∈ partKinds,
    kind ∉ markupNameKinds ∧ kind ≠ "export_specifier" by decide) _ hpart
  have huses := usesVariable_of_parent hp hmarkup hspecifier
  have hkind : s.kind ∈ referenceKinds ↔ s.kind = "identifier" :=
    (show ∀ kind ∈ nameKinds, kind ∈ referenceKinds ↔ kind = "identifier" by decide) _ hs.kind_mem
  constructor
  · intro huse
    refine ⟨hkind.mp huse.kind, ?_⟩
    simpa [huses] using huse.usesVariable
  · rintro ⟨hident, himport⟩
    exact ⟨hs.isSite, hkind.mpr hident, fun _ _ => hs.not_declares, by rw [huses, himport]; rfl⟩

/-- **Destructuring is not taken for assignment.** A name that it assigns is taken for a target only if
nobody declares it, and if it is global or plain. It never writes a variable; if it is plain, it reads the
one that it refers to. -/
theorem isTakenAsTarget_destructured_iff (hs : IsDestructured tree s) :
    (IsTakenAsTarget src tree s ↔
      (∀ scope ∈ s.ancestors, ¬ DeclaresName src tree (src.text s.node) scope) ∧
        (isGlobal (src.text s.node) = true ∨ IsPlain s)) ∧
    (s ∈ (analysisOf src tree).undefined ↔
      IsPlain s ∧ (∀ scope ∈ s.ancestors, ¬ DeclaresName src tree (src.text s.node) scope) ∧
        isGlobal (src.text s.node) = false) ∧
    ∀ b, ¬ Writes src tree s b ∧ (Reads src tree s b ↔ IsPlain s ∧ RefersTo src tree s b) := by
  obtain ⟨p, hp, hpart⟩ := hs.exists_parent
  obtain ⟨hwriting, hunary⟩ := (show ∀ kind ∈ partKinds,
    kind ∉ writingKinds ∧ kind ≠ "unary_expression" by decide) _ hpart
  have hwrite := isWriteOnly_of_parent hp hwriting
  have hundefined : s ∈ (analysisOf src tree).undefined ↔
      IsPlain s ∧ (∀ scope ∈ s.ancestors, ¬ DeclaresName src tree (src.text s.node) scope) ∧
        isGlobal (src.text s.node) = false := by
    rw [mem_undefined_iff_undeclared, hs.isUse_iff, mayBeUndeclared_of_parent hp hunary]
  have hnot : ∀ b, ¬ Writes src tree s b := fun b hwrites =>
    Bool.noConfusion (hwrite.symm.trans hwrites.2.2)
  refine ⟨⟨fun htaken => ?_, fun ⟨hnone, hor⟩ => ⟨fun _ hglobal => ?_, fun b hb => ?_⟩⟩,
    hundefined, fun b => ⟨hnot b, ?_⟩⟩
  · -- whatever it refers to is not written, so there is nothing to refer to
    have hnone : ∀ scope ∈ s.ancestors, ¬ DeclaresName src tree (src.text s.node) scope := by
      intro scope hscope hname
      obtain ⟨b, hb⟩ := exists_refersTo_iff.mpr ⟨scope, hscope, hname⟩
      exact hnot b (htaken.written b hb).1
    refine ⟨hnone, ?_⟩
    cases hglobal : isGlobal (src.text s.node) with
    | true => exact .inl rfl
    | false => exact .inr (hundefined.mp (htaken.undefined hnone hglobal)).1
  · obtain hor | hplain := hor
    · exact Bool.noConfusion (hor.symm.trans hglobal)
    · exact hundefined.mpr ⟨hplain, hnone, hglobal⟩
  · obtain ⟨scope, hscope, hname⟩ := exists_refersTo_iff.mp ⟨b, hb⟩
    exact absurd hname (hnone scope hscope)
  · rw [Reads, hs.isUse_iff, and_iff_left hwrite]

end destructured

/-- The tree of `let a; [a, {b}] = c`. -/
def destructuringTree : Tree :=
  let name kind start : Tree := { kind, start, stop := start + 1 }
  { kind := "program", start := 0, stop := 19
    children := [
      { kind := "lexical_declaration", start := 0, stop := 6
        children := [
          { kind := "variable_declarator", start := 4, stop := 5
            children := [{ name "identifier" 4 with field := some "name" }] }] },
      { kind := "assignment_expression", start := 7, stop := 19
        children := [
          { kind := "array_pattern", start := 7, stop := 15, field := some "left"
            children := [name "identifier" 8,
              { kind := "object_pattern", start := 11, stop := 14
                children := [name "shorthand_property_identifier_pattern" 12] }] },
          { name "identifier" 18 with field := some "right" }] }] }

/-- In `let a; [a, {b}] = c`, neither `a` nor `b` is taken for the target that it is. -/
theorem isTakenAsTarget_destructured_iff_nested :
    let src := Source.ofBytes (Text.encodeString "let a; [a, \x7bb\x7d] = c")
    let assignment? := (Site.walk destructuringTree).find? (·.kind == "assignment_expression")
    let left := assignment?.bind (·.childAt? "left")
    (patternIdentifiers? left).map (src.text ·.node) = ["a", "b"] ∧
      ∀ s ∈ patternIdentifiers? left,
        IsDestructured destructuringTree s ∧ ¬ IsTakenAsTarget src destructuringTree s := by
  intro src assignment? left
  refine ⟨by decide +kernel, fun s hs => ?_⟩
  have hdestructured : IsDestructured destructuringTree s := by
    obtain ⟨pattern, hleft, hs⟩ := mem_patternIdentifiers?.mp hs
    obtain ⟨assignment, hfound, hleft'⟩ := Option.bind_eq_some_iff.mp hleft
    have hassignment := List.find?_some hfound
    have hkind : ∀ pattern ∈ left, pattern.kind ∈ destructuringKinds := by decide +kernel
    exact ⟨assignment, pattern, Site.mem_walk_iff.mp (List.mem_of_find?_eq_some hfound),
      beq_iff_eq.mp hassignment, hleft', hkind pattern hleft, mem_patternIdentifiers.mp hs⟩
  refine ⟨hdestructured, fun htaken => ?_⟩
  obtain ⟨hnone, hor⟩ := (isTakenAsTarget_destructured_iff hdestructured).1.mp htaken
  -- `a` is declared, and `b` is neither global nor plain
  have hnames : ∀ s ∈ patternIdentifiers? left, isGlobal (src.text s.node) = false ∧
      (s.kind = "identifier" → ∃ scope ∈ s.ancestors, ((analysisOf src destructuringTree).table.find?
        ⟨scope.address, src.text s.node⟩).isSome = true) := by
    decide +kernel
  obtain ⟨hglobal, hdeclared⟩ := hnames s hs
  obtain hor | hplain := hor
  · exact Bool.noConfusion (hor.symm.trans hglobal)
  · obtain ⟨scope, hscope, hfind⟩ := hdeclared hplain.1
    exact hnone scope hscope
      ((isSome_find?_analysis (hdestructured.isSite.of_mem_ancestors hscope)).mp hfind)

end Diagnosis.Lint
