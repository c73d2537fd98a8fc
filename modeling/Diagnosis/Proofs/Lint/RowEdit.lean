import Diagnosis.Proofs.Lint.Splice
import Diagnosis.Proofs.Syntax.Row

/-!
# Fixes inside rows

Fixes that mend a text row by row, each of them inside one row and without line feeds in its text.

* `RowEdit` is a row, the line that is to stand there, and the fix that puts it there, if it takes one
  (`RowEdit.Fits`). Such fixes lie in the text (`RowEdit.Fits.inRange`), and those of different rows are
  separate (`RowEdit.AllFit.separate`).
* Together they put all the lines in place, and what stands on a row stays on it (`RowEdit.AllFit.relined`).
  This is one row (`RowEdit.Fits.relined`) and one more, further up (`Relined.cons`): the last row is mended
  first, so that no row moves before its turn.
-/

namespace Diagnosis.Lint

open Diagnosis.Text Diagnosis.Syntax

/-- A line that is to stand on a row, and the fix that puts it there; none if it stands there already. -/
structure RowEdit where
  /-- The row. -/
  row : Nat
  /-- What is to stand there. -/
  line : Bytes
  /-- The fix. -/
  fix? : Option Fix

namespace RowEdit

/-- The fixes of edits. -/
def fixes (edits : List RowEdit) : List Fix := edits.filterMap (·.fix?)

/-- Lines with others in the places of some. -/
def setLines (edits : List RowEdit) (lines : List Bytes) : List Bytes :=
  edits.foldr (fun e lines => lines.set e.row e.line) lines

/-- Whether the fix of an edit makes of its row the line that is to stand there: a part inside the row is
replaced by a text without line feeds. -/
def Fits (src : Source) (e : RowEdit) : Prop :=
  match e.fix? with
  | none => src.line e.row = e.line
  | some f => ∃ front middle back, src.line e.row = front ++ middle ++ back ∧
      f.Covers (src.rowStart e.row + front.length) (src.rowStart e.row + front.length + middle.length) ∧
      lineFeed ∉ f.text ∧ e.line = front ++ f.text ++ back

/-- Whether edits are those of different rows of a text, from the first to the last, and all fit. -/
structure AllFit (src : Source) (edits : List RowEdit) : Prop where
  pairwise : edits.Pairwise (·.row < ·.row)
  fits : ∀ e ∈ edits, e.Fits src
  lt : ∀ e ∈ edits, e.row < src.lines.length

variable {data : Bytes} {e : RowEdit} {edits : List RowEdit}

/-- Setting lines leaves their number as it is. -/
lemma length_setLines (edits : List RowEdit) (lines : List Bytes) :
    (setLines edits lines).length = lines.length := by
  induction edits with
  | nil => rfl
  | cons e edits ih => rw [setLines, List.foldr_cons, List.length_set, ← setLines, ih]

/-- Lines above all others that are set stay. -/
lemma take_setLines {k : Nat} (h : ∀ e ∈ edits, k ≤ e.row) (lines : List Bytes) :
    (setLines edits lines).take k = lines.take k := by
  induction edits with
  | nil => rfl
  | cons e edits ih =>
    rw [List.forall_mem_cons] at h
    rw [setLines, List.foldr_cons, List.take_set_of_le h.1, ← setLines, ih h.2]

/-- The fix of an edit lies inside its row. -/
lemma Fits.within {src : Source} {f : Fix} (h : e.Fits src) (hfix : e.fix? = some f) :
    (src.rowStart e.row : Int) ≤ f.start ∧ f.start ≤ f.stop ∧
      f.stop ≤ (src.rowStart e.row + (src.line e.row).length : Nat) := by
  rw [Fits, hfix] at h
  obtain ⟨front, middle, back, hline, ⟨hstart, hstop⟩, -⟩ := h
  rw [hline, List.length_append, List.length_append]
  omega

/-- The fix of a row that is there is in range. -/
lemma Fits.inRange {f : Fix} (h : e.Fits (.ofBytes data)) (hfix : e.fix? = some f)
    (hrow : e.row < (Source.ofBytes data).lines.length) : f.InRange data := by
  obtain ⟨hstart, hle, hstop⟩ := h.within hfix
  have := Source.rowStart_add_le hrow
  unfold Fix.InRange
  omega

/-- Whether an edit fits depends on nothing behind its row. -/
lemma Fits.congr {src src' : Source} (h : e.Fits src) (hline : src'.line e.row = src.line e.row)
    (hstart : src'.rowStart e.row = src.rowStart e.row) : e.Fits src' := by
  unfold Fits at *
  rw [hline, hstart]
  exact h

end RowEdit

/-! ## What the fixes make of a text -/

/-- A fix without line feeds, of a part without line feeds, leaves everything on its row. -/
lemma Fix.row_point_splice {before middle after : Bytes} {f : Fix} {data : Bytes}
    (hdata : data = before ++ middle ++ after)
    (hf : f.Covers before.length (before.length + middle.length)) (hmiddle : lineFeed ∉ middle)
    (htext : lineFeed ∉ f.text) (i : Nat) :
    ((Source.ofBytes (f.splice data)).point (f.move i)).row = ((Source.ofBytes data).point i).row := by
  have hcount : ∀ between : Bytes, lineFeed ∉ between → ∀ k,
      ((before ++ between ++ after).take (before.length + between.length + k)).count lineFeed =
        before.count lineFeed + (after.take k).count lineFeed := by
    intro between hbetween k
    rw [← List.length_append, List.take_length_add_append, Source.count_append_blanks hbetween]
  rw [Source.row_point, Source.row_point, splice_append hdata hf, hf.move_eq, hdata]
  rcases Nat.lt_or_ge i (before.length + middle.length) with hi | hi
  · rw [if_neg (Nat.not_le.mpr hi), List.append_assoc, List.append_assoc,
      List.take_append_of_le_length (Nat.min_le_right i before.length)]
    -- what lies between the beginning of the range and the offset has no line feed
    rw [List.take_append, List.count_append, List.take_append_of_le_length (by omega : _ ≤ middle.length),
      List.count_eq_zero.mpr fun h => hmiddle (List.mem_of_mem_take h), Nat.add_zero]
    congr 1
    rw [← List.take_take, List.take_length]
  · obtain ⟨k, rfl⟩ := Nat.exists_eq_add_of_le hi
    have hmoved : before.length + middle.length + k - (before.length + middle.length - before.length) +
        f.text.length = before.length + f.text.length + k := by
      omega
    rw [if_pos hi, hmoved, hcount _ htext, hcount _ hmiddle]

/-- What a text whose rows are edited has to do with the text as it was: the lines are set, and nothing has
left its row. -/
structure Relined (edits : List RowEdit) (data data' : Bytes) (move : Nat → Nat) : Prop where
  lines : (Source.ofBytes data').lines = RowEdit.setLines edits (Source.ofBytes data).lines
  row : ∀ i, ((Source.ofBytes data').point (move i)).row = ((Source.ofBytes data).point i).row

section relined

variable {data : Bytes} {e : RowEdit} {edits : List RowEdit}

/-- One row. -/
lemma RowEdit.Fits.relined (h : e.Fits (.ofBytes data)) (hrow : e.row < (Source.ofBytes data).lines.length) :
    let fixes := e.fix?.toList
    Relined [e] data (fixes.foldr Fix.splice data) fun i => fixes.foldr Fix.move i := by
  obtain ⟨row, line, fix?⟩ := e
  cases fix? with
  | none =>
    refine ⟨?_, fun i => rfl⟩
    have h : (Source.ofBytes data).line row = line := h
    show _ = (Source.ofBytes data).lines.set row line
    rw [← h, Source.line, List.getD_eq_getElem _ _ hrow, List.set_getElem_self]
    rfl
  | some f =>
    obtain ⟨front, middle, back, hline, hcovers, htext, hnew⟩ := h
    obtain rfl : line = front ++ f.text ++ back := hnew
    refine ⟨Fix.lines_splice hrow hline hcovers htext, ?_⟩
    obtain ⟨before, after, hdata, hlen, -⟩ := Source.exists_row hrow
    have hunbroken : lineFeed ∉ front ++ middle ++ back := by
      rw [← hline]
      exact Source.lineFeed_not_mem_line hrow
    have hsplit : data = before ++ front ++ middle ++ (back ++ after) := by
      rw [hline] at hdata
      simpa using hdata
    apply Fix.row_point_splice hsplit _ _ htext
    · rw [List.length_append, hlen]
      exact hcovers
    · intro h
      exact hunbroken (List.mem_append_left _ (List.mem_append_right _ h))

/-- **One more row**, further up. -/
lemma Relined.cons {data' : Bytes} {move : Nat → Nat} (h : Relined edits data data' move)
    (hlt : ∀ e' ∈ edits, e.row < e'.row) (he : e.Fits (.ofBytes data))
    (hrow : e.row < (Source.ofBytes data).lines.length) :
    let fixes := e.fix?.toList
    Relined (e :: edits) data (fixes.foldr Fix.splice data') fun i => fixes.foldr Fix.move (move i) := by
  -- up to this row the text is as it was
  obtain ⟨hline, hstart⟩ := Source.line_and_rowStart_congr
    ((congrArg (List.take (e.row + 1)) h.lines).trans (RowEdit.take_setLines hlt _))
  have hrow' : e.row < (Source.ofBytes data').lines.length := by
    rwa [h.lines, RowEdit.length_setLines]
  obtain ⟨hlines, hstays⟩ := (he.congr hline hstart).relined hrow'
  refine ⟨hlines.trans ?_, fun i => (hstays (move i)).trans (h.row i)⟩
  show (Source.ofBytes data').lines.set e.row e.line = _
  rw [h.lines]
  rfl

/-- Edits of several rows, made from the last to the first. -/
theorem RowEdit.AllFit.relined (h : AllFit (.ofBytes data) edits) :
    Relined edits data ((fixes edits).foldr Fix.splice data) fun i => (fixes edits).foldr Fix.move i := by
  obtain ⟨hrows, hfits, hlen⟩ := h
  induction edits with
  | nil => exact ⟨rfl, fun i => rfl⟩
  | cons e edits ih =>
    rw [List.forall_mem_cons] at hfits hlen
    obtain ⟨hlt, hrows⟩ := List.pairwise_cons.mp hrows
    have hfixes : fixes (e :: edits) = e.fix?.toList ++ fixes edits := by
      rw [fixes, List.filterMap_cons]
      cases e.fix? <;> rfl
    simp only [hfixes, List.foldr_append]
    exact (ih hrows hfits.2 hlen.2).cons hlt hfits.1 hlen.1

/-- Fixes of different rows are separate. -/
lemma RowEdit.AllFit.separate {src : Source} (h : AllFit src edits) : Fix.Separate (fixes edits) := by
  refine List.pairwise_filterMap.mpr (h.pairwise.imp_of_mem fun {e e'} he he' hlt f hf f' hf' => ?_)
  have hnext := Source.rowStart_add_lt hlt (h.lt e he)
  obtain ⟨-, -, hstop⟩ := (h.fits e he).within hf
  obtain ⟨hstart, -⟩ := (h.fits e' he').within hf'
  omega

/-- The fixes of edits that fit together are in range. -/
lemma RowEdit.AllFit.inRange (h : AllFit (.ofBytes data) edits) {f : Fix} (hf : f ∈ fixes edits) :
    f.InRange data := by
  obtain ⟨e, he, hfix⟩ := List.mem_filterMap.mp hf
  exact (h.fits e he).inRange hfix (h.lt e he)

end relined

end Diagnosis.Lint
