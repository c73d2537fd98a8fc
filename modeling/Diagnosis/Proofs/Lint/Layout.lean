import Diagnosis.Proofs.Lint.Mending

/-!
# Mending the layout

Three rules are about white space: `indent`, `no-trailing-spaces` and `eol-last`. A linter none of
whose rules edits code may also check names, but all it mends is the layout.

* `Draft.Keeps` is what the drafts of such a linter share: the draft is a text, its code is that of
  the text it comes from, and its fixes are those of a run of the rules over it.
* **Code is kept** (`codeOf_lint_output`): the mended text has the code of the text it was made from.

Nothing is asked of the parser. The rows that the three rules work on are inside the text whatever
the tree, since a row is read off the text, and the first draft may have an error as well as none.
-/

namespace Diagnosis.Lint

open Diagnosis.Text Diagnosis.Syntax

/-- A text without its spaces, tabs and line ends. -/
def codeOf (data : Bytes) : Bytes := data.filter (!isLayout ·)

/-- What all drafts have in common that layout rules make of a text. -/
structure Draft.Keeps (l : Linter) (data : Bytes) (d : Draft) : Prop where
  /-- The draft is a text. -/
  isText : IsText d.data
  /-- It has the code of the text. -/
  code : codeOf d.data = codeOf data
  /-- The fixes are those that the rules propose for the draft. -/
  current : d = .of d.data (l.verify d.data)

namespace Draft.Keeps

variable {l : Linter} {data : Bytes} {d d' : Draft}

/-- The fixes of a draft change its layout only. -/
lemma laysOut (hl : ∀ rule ∈ l.rules, rule.check.editsCode = false) (h : d.Keeps l data) {f : Fix}
    (hf : f ∈ d.fixes) : f.LaysOut d.data := by
  rw [h.current] at hf
  obtain ⟨rule, hrule, finding, hfinding, hfix⟩ := exists_of_mem_fixesOf hf
  exact Check.laysOut_of_mem (hl rule hrule) hfinding hfix

/-- One pass keeps the code. -/
lemma pass (hl : ∀ rule ∈ l.rules, rule.check.editsCode = false) (h : d.Keeps l data)
    (hpass : l.pass d = .ok d') : d'.Keeps l data := by
  obtain ⟨hdata, -, hcurrent⟩ := Linter.pass_eq_ok hpass
  refine ⟨?_, ?_, hcurrent⟩
  · rw [hdata]
    exact isText_applyFixes h.isText fun f hf => (h.laysOut hl hf).2 h.isText
  · rw [hdata, codeOf, filter_applyFixes fun f hf => (h.laysOut hl hf).1]
    exact h.code

/-- All passes keep the code. -/
theorem reaches (hl : ∀ rule ∈ l.rules, rule.check.editsCode = false) (h : d.Keeps l data)
    (hreach : l.Reaches d d') : d'.Keeps l data := by
  induction hreach with
  | refl => exact h
  | tail _ hpass ih => exact ih.pass hl hpass

end Draft.Keeps

namespace Linter

variable {l : Linter}

/-- The first draft is the source, with what the rules say of it. -/
lemma keeps_firstDraft (source : String) :
    (l.firstDraft source).Keeps l (encodeString source) :=
  ⟨isText_encode _, rfl, rfl⟩

/-! ## A linter for the ends of lines -/

/-- A linter that wants no white space at the end of a line, and a line end at the end of the text.
-/
def tidy : Linter where
  rules := [⟨.error, .noTrailingSpaces⟩, ⟨.error, .eolLast .always⟩]
  parse data := { kind := "program", start := 0, stop := data.length }

/-- What the two rules on layout say of a text with a blank at its end, of one without a line end, and of a
tidy one. -/
lemma verify_tidy :
    (tidy.verify (encodeString "a ") = ⟨[
        ⟨some "no-trailing-spaces", .error, "Trailing spaces not allowed.", ⟨1, 2⟩, some ⟨1, 3⟩,
          false, some ⟨1, 2, []⟩⟩,
        ⟨some "eol-last", .error, "Newline required at end of file but not found.", ⟨1, 3⟩, none,
          false, some ⟨2, 2, [lineFeed]⟩⟩], true⟩) ∧
      (tidy.verify (encodeString "a") = ⟨[
        ⟨some "eol-last", .error, "Newline required at end of file but not found.", ⟨1, 2⟩, none,
          false, some ⟨1, 1, [lineFeed]⟩⟩], true⟩) ∧
      tidy.verify (encodeString "a\n") = ⟨[], true⟩ := by
  refine ⟨?_, ?_, ?_⟩
  · exact verify_of_sorted _ (by decide +kernel) (by decide +kernel) (by decide)
  · exact verify_of_sorted _ (by decide +kernel) (by decide +kernel) (List.pairwise_singleton _ _)
  · exact verify_of_sorted _ (by decide +kernel) (by decide +kernel) .nil

/-- The two fixes touch each other, so it takes two passes to apply both. -/
lemma lastDraft_tidy : tidy.lastDraft "a " = (⟨encodeString "a\n", []⟩, .clean) := by
  obtain ⟨hfirst, hsecond, hthird⟩ := verify_tidy
  have hblank : applyFixes (encodeString "a ") [⟨1, 2, []⟩, ⟨2, 2, [lineFeed]⟩] =
      (encodeString "a", 1) := by
    rw [applyFixes, List.mergeSort_of_pairwise (by decide)]
    decide
  have hend : applyFixes (encodeString "a") [⟨1, 1, [lineFeed]⟩] = (encodeString "a\n", 1) := by
    rw [applyFixes, List.mergeSort_singleton]
    decide
  have hpass : tidy.pass ⟨encodeString "a ", [⟨1, 2, []⟩, ⟨2, 2, [lineFeed]⟩]⟩ =
      .ok ⟨encodeString "a", [⟨1, 1, [lineFeed]⟩]⟩ := by
    rw [pass_of_applied (by decide) hblank (by decide) (by decide) (by rw [hsecond]), hsecond]
    rfl
  have hnext : tidy.pass ⟨encodeString "a", [⟨1, 1, [lineFeed]⟩]⟩ = .ok ⟨encodeString "a\n", []⟩ := by
    rw [pass_of_applied (by decide) hend (by decide) (by decide) (by rw [hthird]), hthird]
    rfl
  have hstop : tidy.pass ⟨encodeString "a\n", []⟩ = .error .clean := pass_eq_clean_iff.mpr rfl
  rw [lastDraft_of_parsed (by decide), firstDraft, hfirst]
  simp only [Draft.of, fixesOf, List.filterMap_cons, List.filterMap_nil]
  rw [passLimit, mend, hpass]
  dsimp only
  rw [mend, hnext]
  dsimp only
  rw [mend, hstop]

/-! ## The mended text -/

/-- **Layout rules never touch code.** If no rule edits code, then the mended text is, up to spaces,
tabs and line ends, the text as it was given. -/
theorem codeOf_lint_output (l : Linter) (hl : ∀ rule ∈ l.rules, rule.check.editsCode = false)
    (source : String) :
    codeOf (encodeString (l.lint source).output) = codeOf (encodeString source) := by
  have hlast : (l.lastDraft source).1.Keeps l (encodeString source) :=
    (keeps_firstDraft source).reaches hl (reaches_lastDraft source)
  rw [output_eq, encodeString_decodeString hlast.isText]
  exact hlast.code

/-- A line that ends in a blank and lacks its end. -/
theorem codeOf_lint_output_tidy :
    (∀ rule ∈ tidy.rules, rule.check.editsCode = false) ∧
      (tidy.lint "a ").output = "a\n" ∧
      codeOf (encodeString (tidy.lint "a ").output) = codeOf (encodeString "a ") := by
  have hrules : ∀ rule ∈ tidy.rules, rule.check.editsCode = false := by
    simp [tidy, Check.editsCode]
  refine ⟨hrules, ?_, codeOf_lint_output tidy hrules "a "⟩
  rw [output_eq, lastDraft_tidy, decodeString_encodeString]

end Linter

end Diagnosis.Lint
