import Diagnosis.Lint.Rule.Whitespace
import Diagnosis.Proofs.Lint.RowEdit
import Diagnosis.Proofs.Syntax.Move
import Diagnosis.Proofs.Text.Blank

/-!
# Blanks at the ends of lines

What `no-trailing-spaces` makes of a text, said line by line: `trimLine` cuts the spaces and tabs off the end
of a line, in front of a carriage return if the line ends with one, and `trimRows` does so on every row but
those that are to be kept, which are the rows that end inside a template.

* A row is found if trimming changes it (`isSome_trailing?_iff`), and its fix trims it (`fits_trimEdit`).
* **The fixes trim the lines** (`applyFixes_checkTrailing`): they are applied all together, and what they make
  is the trimmed lines, one line feed between each two. What stood on a row stays on it.
* A second run is another matter. A carriage return counts as part of a line end only if nothing is behind it.
  So one with blanks on both sides is taken for the end of its line once those behind it are gone, and then
  those in front of it are found (`trimLine_trimLine_ne_iff`). On every other row nothing is found again.
-/

namespace Diagnosis.Lint

open Diagnosis.Text Diagnosis.Syntax

namespace Whitespace

/-! ## Lines -/

/-- A line without the spaces and tabs at its end. A carriage return that ends the line stays, and those in
front of it go. -/
def trimLine (line : Bytes) : Bytes :=
  if line.getLast? = some carriageReturn then
    line.dropLast.rdropWhile Source.isIndentByte ++ [carriageReturn]
  else line.rdropWhile Source.isIndentByte

/-- The lines of a text, trimmed except for those on rows that are to be kept. -/
def trimRows (keep : Nat → Bool) (lines : List Bytes) : List Bytes :=
  lines.mapIdx fun row line => if keep row then line else trimLine line

/-- Whether a line ends with a blank, a carriage return, and blanks. -/
def HidesBlanks (line : Bytes) : Prop :=
  ∃ front b blanks, line = front ++ b :: carriageReturn :: blanks ∧ Source.isIndentByte b = true ∧
    blanks ≠ [] ∧ ∀ c ∈ blanks, Source.isIndentByte c = true

section line

variable {line front blanks : Bytes} {b : UInt8}

/-- A line is what is kept of it, blanks, and its end, and trimming takes out the blanks. -/
lemma exists_trimLine_eq (line : Bytes) : ∃ blanks ending,
    (lineBody line).length = (dropEndWhile Source.isIndentByte (lineBody line)).length + blanks.length ∧
      line = dropEndWhile Source.isIndentByte (lineBody line) ++ blanks ++ ending ∧
      trimLine line = dropEndWhile Source.isIndentByte (lineBody line) ++ ending ∧
      ∀ b ∈ blanks, Source.isIndentByte b = true := by
  obtain ⟨blanks, hbody, hblanks⟩ := exists_append_dropEndWhile Source.isIndentByte (lineBody line)
  have hlength := congrArg List.length hbody
  rw [List.length_append] at hlength
  by_cases hlast : line.getLast? = some carriageReturn
  · have hline : line = lineBody line ++ [carriageReturn] := by
      obtain ⟨init, rfl⟩ := List.getLast?_eq_some_iff.mp hlast
      simp [lineBody]
    refine ⟨blanks, [carriageReturn], hlength, ?_, ?_, hblanks⟩
    · rw [← hbody]
      exact hline
    · rw [trimLine, if_pos hlast, lineBody, if_pos hlast]
      rfl
  · have hline : lineBody line = line := if_neg hlast
    refine ⟨blanks, [], hlength, ?_, ?_, hblanks⟩
    · rw [← hbody, hline, List.append_nil]
    · rw [trimLine, if_neg hlast, hline, List.append_nil]
      rfl

/-- Trimming a line keeps the carriage return at its end. -/
lemma trimLine_concat (front : Bytes) :
    trimLine (front ++ [carriageReturn]) =
      front.rdropWhile Source.isIndentByte ++ [carriageReturn] := by
  simp [trimLine]

/-- A line without a carriage return loses what indents at its end. -/
lemma trimLine_of_getLast? (h : line.getLast? ≠ some carriageReturn) :
    trimLine line = line.rdropWhile Source.isIndentByte := if_neg h

/-- Behind a carriage return with blanks behind it, blanks are all that is cut off. -/
lemma trimLine_of_hidden (hne : blanks ≠ []) (hblanks : ∀ c ∈ blanks, Source.isIndentByte c = true) :
    trimLine (front ++ [carriageReturn] ++ blanks) = front ++ [carriageReturn] := by
  have hlast : (front ++ [carriageReturn] ++ blanks).getLast? ≠ some carriageReturn := by
    obtain ⟨init, c, rfl⟩ := (List.eq_nil_or_concat' blanks).resolve_left hne
    rw [← List.append_assoc, List.getLast?_concat]
    intro h
    have hc := hblanks c (List.mem_append_right init List.mem_cons_self)
    rw [Option.some.inj h] at hc
    exact absurd hc (by decide)
  have hcut : dropEndWhile Source.isIndentByte (front ++ [carriageReturn] ++ blanks) =
      dropEndWhile Source.isIndentByte (front ++ [carriageReturn]) := dropEndWhile_append hblanks
  rw [trimLine_of_getLast? hlast]
  exact hcut.trans (List.rdropWhile_concat_neg _ _ _ (by decide))

/-- **What a second look finds**: blanks in front of a carriage return that other blanks had kept from being
the end of the line. -/
lemma trimLine_trimLine_ne_iff : trimLine (trimLine line) ≠ trimLine line ↔ HidesBlanks line := by
  constructor
  · intro hne
    by_cases hlast : line.getLast? = some carriageReturn
    · -- the end of the line is the same, and nothing is left in front of it
      obtain ⟨init, rfl⟩ := List.getLast?_eq_some_iff.mp hlast
      rw [trimLine_concat, trimLine_concat, List.rdropWhile_idempotent] at hne
      exact absurd rfl hne
    · obtain ⟨blanks, hline, hblanks⟩ := exists_append_dropEndWhile Source.isIndentByte line
      have hkept : trimLine line = dropEndWhile Source.isIndentByte line := trimLine_of_getLast? hlast
      have hagain : (dropEndWhile Source.isIndentByte line).rdropWhile Source.isIndentByte =
          dropEndWhile Source.isIndentByte line := List.rdropWhile_idempotent _ _
      rw [hkept] at hne
      generalize dropEndWhile Source.isIndentByte line = kept at *
      by_cases hend : kept.getLast? = some carriageReturn
      · obtain ⟨init, rfl⟩ := List.getLast?_eq_some_iff.mp hend
        rw [trimLine_concat] at hne
        have hinit : init.rdropWhile Source.isIndentByte ≠ init := fun h => hne (by rw [h])
        obtain ⟨front, b, rfl⟩ := (List.eq_nil_or_concat' init).resolve_left fun h => hinit (by rw [h]; rfl)
        refine ⟨front, b, blanks, by simpa using hline, ?_, fun h => ?_, hblanks⟩
        · by_contra hb
          exact hinit (List.rdropWhile_concat_neg _ _ _ hb)
        · rw [h, List.append_nil] at hline
          exact hlast (hline ▸ hend)
      · exact absurd ((trimLine_of_getLast? hend).trans hagain) hne
  · rintro ⟨front, b, blanks, rfl, hb, hne, hblanks⟩ hsame
    have hline : front ++ b :: carriageReturn :: blanks = front ++ [b] ++ [carriageReturn] ++ blanks := by
      simp
    rw [hline, trimLine_of_hidden hne hblanks, trimLine_concat, List.append_cancel_right_eq,
      List.rdropWhile_concat_pos _ _ _ hb] at hsame
    have hlength := (List.rdropWhile_prefix Source.isIndentByte front).length_le
    rw [hsame, List.length_append, List.length_singleton] at hlength
    omega

instance (line : Bytes) : Decidable (HidesBlanks line) :=
  decidable_of_iff _ trimLine_trimLine_ne_iff

end line

/-! ## Rows -/

section rows

variable {src : Source} {row : Nat} {finding : Finding}

/-- A row that is to be trimmed. -/
def trimEdit (src : Source) (row : Nat) : RowEdit where
  row := row
  line := trimLine (src.line row)
  fix? := (trailing? src row).bind (·.fix)

/-- The edit that trims a row fits the text. -/
lemma fits_trimEdit (src : Source) (row : Nat) : (trimEdit src row).Fits src := by
  obtain ⟨blanks, ending, hlength, hline, htrim, -⟩ := exists_trimLine_eq (src.line row)
  unfold RowEdit.Fits trimEdit trailing?
  dsimp only
  split_ifs with hkept
  · have hnil : blanks = [] := List.length_eq_zero_iff.mp (by omega)
    show src.line row = trimLine (src.line row)
    rw [htrim]
    conv_lhs => rw [hline, hnil, List.append_nil]
  · refine ⟨_, blanks, ending, hline, ⟨rfl, ?_⟩, List.not_mem_nil, ?_⟩
    · rw [hlength, Nat.add_assoc]
    · rw [htrim, List.append_nil]

/-- A row is found if trimming changes it. -/
lemma trailing?_eq_none_iff : trailing? src row = none ↔ trimLine (src.line row) = src.line row := by
  obtain ⟨blanks, ending, hlength, hline, htrim, -⟩ := exists_trimLine_eq (src.line row)
  have hsame : trimLine (src.line row) = src.line row ↔ blanks = [] := by
    conv_lhs => rhs; rw [hline]
    rw [htrim, List.append_cancel_right_eq, List.self_eq_append_right]
  rw [hsame, ← List.length_eq_zero_iff, trailing?]
  dsimp only
  rw [ite_eq_left_iff]
  constructor
  · intro h
    by_contra hne
    exact absurd (h (by omega)) (Option.some_ne_none _)
  · intro h hne
    omega

/-- What is said of the end of a row is said of that row, and has a fix. -/
lemma of_trailing? (h : trailing? src row = some finding) :
    finding.start.line = row + 1 ∧ finding.fix.isSome := by
  simp only [trailing?, Option.ite_none_left_eq_some, Option.some.injEq] at h
  obtain ⟨-, rfl⟩ := h
  exact ⟨rfl, rfl⟩

/-- The rows that are looked at. -/
def openRows (subject : Subject) : List Nat :=
  (List.range subject.source.lines.length).filter (!isProtected subject ·)

variable {subject : Subject}

/-- The rows that may be trimmed are those that nothing protects. -/
lemma mem_openRows_iff :
    row ∈ openRows subject ↔ row < subject.source.lines.length ∧ isProtected subject row = false := by
  rw [openRows, List.mem_filter, List.mem_range, Bool.not_eq_true']

/-- The edits that trim rows fit together. -/
lemma allFit_trimEdit (subject : Subject) :
    RowEdit.AllFit subject.source ((openRows subject).map (trimEdit subject.source)) where
  pairwise := List.pairwise_map.mpr (List.pairwise_lt_range.filter _)
  fits := List.forall_mem_map.mpr fun row _ => fits_trimEdit _ row
  lt := List.forall_mem_map.mpr fun _ hrow => (mem_openRows_iff.mp hrow).1

/-- The fixes of the rule are those of the edits. -/
lemma fixes_checkTrailing (subject : Subject) :
    (checkTrailing subject).filterMap (·.fix) =
      RowEdit.fixes ((openRows subject).map (trimEdit subject.source)) := by
  rw [checkTrailing, List.filterMap_filterMap, RowEdit.fixes, List.filterMap_map]
  rfl

/-- Every finding comes with a fix. -/
lemma length_fixes_checkTrailing (subject : Subject) :
    ((checkTrailing subject).filterMap (·.fix)).length = (checkTrailing subject).length := by
  rw [List.filterMap_length_eq_length]
  intro finding h
  obtain ⟨row, -, hfound⟩ := List.mem_filterMap.mp h
  exact (of_trailing? hfound).2

/-- The rows that are found are those that trimming changes. -/
lemma lines_checkTrailing (subject : Subject) :
    (checkTrailing subject).map (·.start.line) = ((List.range subject.source.lines.length).filter fun row =>
      !isProtected subject row && decide (trimLine (subject.source.line row) ≠ subject.source.line row)).map
        (· + 1) := by
  have hrow : ∀ row, (trailing? subject.source row).map (·.start.line) =
      if trimLine (subject.source.line row) = subject.source.line row then none else some (row + 1) := by
    intro row
    cases h : trailing? subject.source row with
    | none => rw [if_pos (trailing?_eq_none_iff.mp h), Option.map_none]
    | some finding =>
      rw [if_neg fun hsame => Option.some_ne_none _ (h.symm.trans (trailing?_eq_none_iff.mpr hsame)),
        Option.map_some, (of_trailing? h).1]
  rw [checkTrailing, List.map_filterMap, List.filterMap_filter, ← List.filterMap_eq_map,
    List.filterMap_filter]
  congr 1
  funext row
  rw [hrow]
  by_cases hsame : trimLine (subject.source.line row) = subject.source.line row <;> simp [hsame]

/-- One row of the lines of which some are trimmed. -/
lemma getElem?_setLines_trimEdit (src : Source) (rows : List Nat) (i : Nat) :
    (RowEdit.setLines (rows.map (trimEdit src)) src.lines)[i]? =
      src.lines[i]?.map fun line => if i ∈ rows then trimLine line else line := by
  induction rows with
  | nil => simp [RowEdit.setLines]
  | cons row rows ih =>
    have hset : (RowEdit.setLines ((row :: rows).map (trimEdit src)) src.lines)[i]? =
        if row = i then if row < src.lines.length then some (trimLine (src.line row)) else none
        else (RowEdit.setLines (rows.map (trimEdit src)) src.lines)[i]? := by
      rw [← RowEdit.length_setLines (rows.map (trimEdit src)) src.lines]
      exact List.getElem?_set
    rw [hset]
    by_cases hrow : row = i
    · subst hrow
      rw [if_pos rfl]
      by_cases hlt : row < src.lines.length
      · rw [if_pos hlt, List.getElem?_eq_getElem hlt, Option.map_some, if_pos List.mem_cons_self,
          Source.line, List.getD_eq_getElem _ _ hlt]
      · rw [if_neg hlt, List.getElem?_eq_none (Nat.le_of_not_lt hlt), Option.map_none]
    · rw [if_neg hrow, ih]
      simp only [List.mem_cons, Ne.symm hrow, false_or]

/-- The trimmed lines. -/
lemma setLines_trimEdit (subject : Subject) :
    RowEdit.setLines ((openRows subject).map (trimEdit subject.source)) subject.source.lines =
      trimRows (isProtected subject) subject.source.lines := by
  apply List.ext_getElem?
  intro i
  rw [getElem?_setLines_trimEdit, trimRows, List.getElem?_mapIdx]
  rcases Nat.lt_or_ge i subject.source.lines.length with hlt | hge
  · rw [List.getElem?_eq_getElem hlt, Option.map_some, Option.map_some]
    simp only [mem_openRows_iff, hlt, true_and]
    cases isProtected subject i <;> rfl
  · rw [List.getElem?_eq_none hge, Option.map_none, Option.map_none]

end rows

section again

variable {data : Bytes} {tree : Tree}

/-- What the fixes make of a text. -/
lemma relined_checkTrailing (data : Bytes) (tree : Tree) :
    let subject := Subject.of (.ofBytes data) tree
    let fixes := (checkTrailing subject).filterMap (·.fix)
    (Source.ofBytes (fixes.foldr Fix.splice data)).lines =
        trimRows (isProtected subject) (Source.ofBytes data).lines ∧
      ∀ i, ((Source.ofBytes (fixes.foldr Fix.splice data)).point (fixes.foldr Fix.move i)).row =
        ((Source.ofBytes data).point i).row := by
  obtain ⟨hlines, hrow⟩ := (allFit_trimEdit (.of (.ofBytes data) tree)).relined
  dsimp only
  rw [fixes_checkTrailing]
  exact ⟨hlines.trans (setLines_trimEdit (.of (.ofBytes data) tree)), hrow⟩

/-- If nothing leaves its row, then the moved tree keeps the same rows from being looked at. -/
lemma isProtected_moveBy {data' : Bytes} {move : Nat → Nat}
    (h : ∀ i, ((Source.ofBytes data').point (move i)).row = ((Source.ofBytes data).point i).row) (row : Nat) :
    isProtected (.of (.ofBytes data') (tree.moveBy move)) row =
      isProtected (.of (.ofBytes data) tree) row := by
  unfold isProtected Subject.of
  dsimp only
  rw [Site.walk_moveBy, List.any_map]
  congr 1
  funext s
  simp only [Function.comp_apply, Site.kind_moveBy, Site.node_moveBy, Source.startPoint, Source.stopPoint,
    Tree.start_moveBy, Tree.stop_moveBy, h]
  rfl

/-- The rows that are found on trimmed lines. -/
lemma lines_checkTrailing_trimRows {subject subject' : Subject}
    (hlines : subject'.source.lines = trimRows (isProtected subject) subject.source.lines)
    (hkeep : ∀ row < subject.source.lines.length, isProtected subject' row = isProtected subject row) :
    (checkTrailing subject').map (·.start.line) = ((List.range subject.source.lines.length).filter fun row =>
      !isProtected subject row && decide (HidesBlanks (subject.source.line row))).map (· + 1) := by
  have hlength : subject'.source.lines.length = subject.source.lines.length := by
    rw [hlines, trimRows, List.length_mapIdx]
  rw [lines_checkTrailing, hlength]
  congr 1
  apply List.filter_congr
  intro row hrow
  rw [List.mem_range] at hrow
  rw [hkeep row hrow]
  cases hprotected : isProtected subject row with
  | true => rfl
  | false =>
    have hline : subject'.source.line row = trimLine (subject.source.line row) := by
      rw [Source.line, Source.line, hlines, List.getD_eq_getElem _ _ (by rwa [← hlines, hlength]),
        List.getD_eq_getElem _ _ hrow]
      simp [trimRows, hprotected]
    rw [hline, decide_eq_decide.mpr trimLine_trimLine_ne_iff]

end again

/-- **The fixes trim the lines.** For every text and every tree, each finding of `no-trailing-spaces` comes with
a fix, and all of them are applied together. They make of the text its lines, one line feed between each two,
where each row that does not end inside a template has lost the spaces and tabs at its end, or in front of the
one carriage return at its end. If the same rows are kept, then a second run finds exactly the others that
ended with a blank, a carriage return, and blanks; and the tree whose offsets move along keeps the same rows. -/
theorem applyFixes_checkTrailing (data : Bytes) (tree : Tree) :
    let src := Source.ofBytes data
    let subject := Subject.of src tree
    let fixes := (checkTrailing subject).filterMap (·.fix)
    let out := [lineFeed].intercalate (trimRows (isProtected subject) src.lines)
    fixes.length = (checkTrailing subject).length ∧
      applyFixes data fixes = (out, fixes.length) ∧
      (∀ tree' : Tree,
        (∀ row < src.lines.length, isProtected (.of (.ofBytes out) tree') row = isProtected subject row) →
        (checkTrailing (.of (.ofBytes out) tree')).map (·.start.line) =
          ((List.range src.lines.length).filter fun row =>
            !isProtected subject row && decide (HidesBlanks (src.line row))).map (· + 1)) ∧
      ∀ row, isProtected (.of (.ofBytes out) (tree.moveBy fun i => fixes.foldr Fix.move i)) row =
        isProtected subject row := by
  intro src subject fixes out
  obtain ⟨hlines, hrow⟩ := relined_checkTrailing data tree
  have hout : fixes.foldr Fix.splice data = out := by
    show _ = [lineFeed].intercalate (trimRows (isProtected subject) src.lines)
    rw [← hlines]
    exact (intercalate_splitAt lineFeed _).symm
  have hfit := allFit_trimEdit subject
  have happly : applyFixes data fixes = (fixes.foldr Fix.splice data, fixes.length) := by
    rw [show fixes = _ from fixes_checkTrailing subject]
    exact applyFixes_of_separate (fun f hf => hfit.inRange hf) hfit.separate
  refine ⟨length_fixes_checkTrailing subject, ?_, fun tree' hkeep => ?_, fun row => ?_⟩
  · rw [happly, hout]
  · have hlines' : (Subject.of (.ofBytes out) tree').source.lines =
        trimRows (isProtected subject) subject.source.lines := by
      rw [← hout]
      exact hlines
    exact lines_checkTrailing_trimRows hlines' hkeep
  · rw [← hout]
    exact isProtected_moveBy hrow row

/-- Lines that end in blanks in front of a line end, inside a template, at the end of one, and on both sides
of a carriage return. -/
def frayedText : Bytes := encodeString "x \t\r\n\x60y  \n\x60  \nz \r "

/-- The tree of the text: a template on the second row and the third. -/
def frayedTree : Tree where
  kind := "program"
  start := 0
  stop := 18
  children := [
    { kind := "identifier", start := 0, stop := 1 },
    { kind := "template_string", start := 5, stop := 11 },
    { kind := "identifier", start := 14, stop := 15 }]

/-- The text without the blanks. -/
def neatText : Bytes := encodeString "x\r\n\x60y  \n\x60\nz \r"

/-- The tree of the text without the blanks. -/
def neatTree : Tree where
  kind := "program"
  start := 0
  stop := 14
  children := [
    { kind := "identifier", start := 0, stop := 1 },
    { kind := "template_string", start := 3, stop := 9 },
    { kind := "identifier", start := 10, stop := 11 }]

/-- Three rows are trimmed, and of these the last is found again. -/
theorem applyFixes_checkTrailing_frayed :
    [lineFeed].intercalate (trimRows (isProtected (.of (.ofBytes frayedText) frayedTree))
        (Source.ofBytes frayedText).lines) = neatText ∧
      applyFixes frayedText ((checkTrailing (.of (.ofBytes frayedText) frayedTree)).filterMap (·.fix)) =
        (neatText, 3) ∧
      (∀ row < 4, isProtected (.of (.ofBytes neatText) neatTree) row =
        isProtected (.of (.ofBytes frayedText) frayedTree) row) ∧
      (checkTrailing (.of (.ofBytes neatText) neatTree)).map (·.start.line) = [4] := by
  have hout : [lineFeed].intercalate (trimRows (isProtected (.of (.ofBytes frayedText) frayedTree))
      (Source.ofBytes frayedText).lines) = neatText := by
    decide +kernel
  have hcount : ((checkTrailing (.of (.ofBytes frayedText) frayedTree)).filterMap (·.fix)).length = 3 := by
    decide +kernel
  have hkeep : ∀ row < 4, isProtected (.of (.ofBytes neatText) neatTree) row =
      isProtected (.of (.ofBytes frayedText) frayedTree) row := by
    decide +kernel
  have hhidden : ((List.range (Source.ofBytes frayedText).lines.length).filter fun row =>
      !isProtected (.of (.ofBytes frayedText) frayedTree) row &&
        decide (HidesBlanks ((Source.ofBytes frayedText).line row))).map (· + 1) = [4] := by
    decide +kernel
  obtain ⟨-, happly, hagain, -⟩ := applyFixes_checkTrailing frayedText frayedTree
  rw [hout, hcount] at happly
  rw [hout] at hagain
  exact ⟨hout, happly, hkeep, (hagain neatTree hkeep).trans hhidden⟩

/-- The fixes do not always leave a text on which nothing is found, even though no row is kept: of `a`, a space,
a carriage return and two spaces, the first run leaves the first space for the second. -/
theorem checkTrailing_applyFixes_ne_nil :
    let text := encodeString "a \r  "
    let tree : Tree := { kind := "program", start := 0, stop := 5 }
    let fixes := (checkTrailing (.of (.ofBytes text) tree)).filterMap (·.fix)
    let tree' : Tree := { kind := "program", start := 0, stop := 3 }
    applyFixes text fixes = (encodeString "a \r", 1) ∧
      (∀ row < (Source.ofBytes text).lines.length,
        isProtected (.of (.ofBytes (encodeString "a \r")) tree') row =
          isProtected (.of (.ofBytes text) tree) row) ∧
      checkTrailing (.of (.ofBytes (encodeString "a \r")) tree') ≠ [] := by
  refine ⟨?_, ?_, ?_⟩ <;> decide +kernel

end Whitespace

end Diagnosis.Lint
