import Diagnosis.Lint.Rule.Indent
import Diagnosis.Proofs.Lint.RowEdit

/-!
# Rows with another indentation

The rule `indent` mends a row by putting other spaces or tabs in front of it (`rowFix`).

* A fix of a row puts the row with the expected indentation in its place (`fits_rowEdit`). So fixes of
  different rows lie in the text and are separate, and they make of it `realign`.
* What stands behind the indentation stays on its row, which it opens or not as before: first for one row
  (`stays_splice`), then for all, the last first (`stays_rows`).

Both together are what it means that a text is `Realigned`.
-/

namespace Diagnosis.Lint

open Diagnosis.Text Diagnosis.Syntax

namespace Indent

variable {src : Source} {o : IndentOptions} {rows : Expected}

/-! ## The fixes of the rows -/

/-- The fix that gives a row the indentation that is expected. -/
def rowFix (src : Source) (o : IndentOptions) (r : Nat × Nat) : Fix where
  start := src.rowStart r.1
  stop := (src.rowStart r.1 + (src.indentation r.1).length : Nat)
  text := List.replicate r.2 o.unit.byte

/-- The fix of a row; none where the indentation is the expected one. -/
def rowFix? (src : Source) (o : IndentOptions) (r : Nat × Nat) : Option Fix :=
  if src.indentation r.1 = List.replicate r.2 o.unit.byte then none else some (rowFix src o r)

/-- The fix of a row is the one that its finding has. -/
lemma fix_finding? (src : Source) (o : IndentOptions) (r : Nat × Nat) :
    (finding? src o r.1 r.2).bind (·.fix) = rowFix? src o r := by
  unfold finding? rowFix?
  dsimp only
  split <;> rfl

/-- A row has one fix. -/
lemma eq_of_rowFix? {r : Nat × Nat} {f : Fix} (h : rowFix? src o r = some f) : f = rowFix src o r := by
  unfold rowFix? at h
  split at h
  · exact absurd h nofun
  · exact (Option.some.inj h).symm

/-- The indentation of a row is a part of it. -/
lemma length_indentation_le (src : Source) (row : Nat) :
    (src.indentation row).length ≤ (src.line row).length :=
  (List.takeWhile_prefix _).length_le

/-! ## Rows with another indentation -/

/-- A line with so many characters of indentation. -/
def aligned (o : IndentOptions) (n : Nat) (line : Bytes) : Bytes :=
  List.replicate n o.unit.byte ++ line.dropWhile Source.isIndentByte

/-- The lines of a text with the expected indentation on some rows. -/
def realign (src : Source) (o : IndentOptions) (rows : Expected) : List Bytes :=
  rows.foldr (fun r lines => lines.set r.1 (aligned o r.2 (src.line r.1))) src.lines

/-- The byte of a unit of indentation is one that indents. -/
lemma isIndentByte_byte (unit : IndentUnit) : Source.isIndentByte unit.byte = true := by
  cases unit <;> decide

/-- What indents is blank. -/
lemma isBlankByte_of_isIndentByte {b : UInt8} (h : Source.isIndentByte b = true) :
    isBlankByte b = true := by
  unfold Source.isIndentByte at h
  rw [Bool.or_eq_true, decide_eq_true_eq, decide_eq_true_eq] at h
  obtain rfl | rfl := h <;> decide

/-- Characters of indentation are blanks, and none ends the line. -/
lemma blanks_of_all {bs : Bytes} (h : ∀ b ∈ bs, Source.isIndentByte b = true) :
    lineFeed ∉ bs ∧ bs.all isBlankByte = true :=
  ⟨fun hmem => absurd (h _ hmem) (by decide),
    List.all_eq_true.mpr fun b hb => isBlankByte_of_isIndentByte (h b hb)⟩

/-- A row that is aligned has as many units before it as it should. -/
lemma takeWhile_aligned (n : Nat) (line : Bytes) :
    (aligned o n line).takeWhile Source.isIndentByte = List.replicate n o.unit.byte := by
  have hrest : (line.dropWhile Source.isIndentByte).takeWhile Source.isIndentByte = [] := by
    induction line with
    | nil => rfl
    | cons b line ih =>
      rw [List.dropWhile_cons]
      split
      case isTrue => exact ih
      case isFalse hb => rw [List.takeWhile_cons_of_neg hb]
  have hunits : ∀ b ∈ List.replicate n o.unit.byte, Source.isIndentByte b = true := fun b hb =>
    List.eq_of_mem_replicate hb ▸ isIndentByte_byte o.unit
  rw [aligned, List.takeWhile_append_of_pos hunits, hrest, List.append_nil]

/-- A line that has the expected indentation stays as it is. -/
lemma aligned_of_indentation {row n : Nat} (h : src.indentation row = List.replicate n o.unit.byte) :
    aligned o n (src.line row) = src.line row := by
  rw [aligned, ← h, Source.indentation, List.takeWhile_append_dropWhile]

/-- A row that is to have the expected indentation. -/
def rowEdit (src : Source) (o : IndentOptions) (r : Nat × Nat) : RowEdit where
  row := r.1
  line := aligned o r.2 (src.line r.1)
  fix? := rowFix? src o r

/-- The edit of a row fits the text. -/
lemma fits_rowEdit (src : Source) (o : IndentOptions) (r : Nat × Nat) : (rowEdit src o r).Fits src := by
  unfold RowEdit.Fits rowEdit rowFix?
  dsimp only
  split_ifs with hsame
  · exact (aligned_of_indentation hsame).symm
  · refine ⟨[], src.indentation r.1, (src.line r.1).dropWhile Source.isIndentByte, ?_, ⟨rfl, rfl⟩, ?_, rfl⟩
    · exact List.takeWhile_append_dropWhile.symm
    · exact (blanks_of_all fun b hb => List.eq_of_mem_replicate hb ▸ isIndentByte_byte o.unit).1

/-- Fixes of rows lie in the text. -/
lemma inRange_rowFix {data : Bytes} {r : Nat × Nat} (h : r.1 < (Source.ofBytes data).lines.length) :
    (rowFix (.ofBytes data) o r).InRange data := by
  have hrow := Source.rowStart_add_le h
  have hle := length_indentation_le (.ofBytes data) r.1
  unfold rowFix Fix.InRange
  dsimp only
  omega

/-- Aligning rows is setting the lines of their edits. -/
lemma realign_eq (src : Source) (o : IndentOptions) (rows : Expected) :
    realign src o rows = RowEdit.setLines (rows.map (rowEdit src o)) src.lines := by
  rw [realign, RowEdit.setLines, List.foldr_map]
  rfl

/-- Aligning rows leaves their number as it is. -/
lemma length_realign : (realign src o rows).length = src.lines.length := by
  rw [realign_eq, RowEdit.length_setLines]

/-- Rows above all that are realigned stay. -/
lemma take_realign {k : Nat} (h : ∀ r ∈ rows, k ≤ r.1) :
    (realign src o rows).take k = src.lines.take k := by
  rw [realign_eq]
  exact RowEdit.take_setLines (List.forall_mem_map.mpr h) _

/-- The fixes of the edits are those of the rows. -/
lemma fixes_rowEdit (src : Source) (o : IndentOptions) (rows : Expected) :
    RowEdit.fixes (rows.map (rowEdit src o)) = rows.filterMap (rowFix? src o) := by
  rw [RowEdit.fixes, List.filterMap_map]
  rfl

/-- The indentation of a row is the expected one, or what it was where nothing is expected. -/
lemma indentation_realign {src' : Source} (hlines : src'.lines = realign src o rows)
    (h : ∀ r ∈ rows, r.1 < src.lines.length) (row : Nat) :
    src'.indentation row =
      ((rows.lookup row).map (List.replicate · o.unit.byte)).getD (src.indentation row) := by
  unfold Source.indentation Source.line
  rw [hlines]
  clear hlines
  induction rows with
  | nil => rfl
  | cons r rows ih =>
    rw [List.forall_mem_cons] at h
    rw [realign, List.foldr_cons, ← realign, List.lookup_cons, List.getD_eq_getElem?_getD]
    by_cases hrow : row = r.1
    · rw [hrow, List.getElem?_set_self (by rw [length_realign]; exact h.1), beq_self_eq_true]
      exact takeWhile_aligned r.2 _
    · rw [List.getElem?_set_ne (Ne.symm hrow), ← List.getD_eq_getElem?_getD, ih h.2,
        beq_eq_false_iff_ne.mpr hrow]

/-! ## What stands behind the indentation -/

/-- Whether a byte that is no blank stands at an offset. -/
def Stands (data : Bytes) (i : Nat) : Prop := data[i]?.map isBlankByte = some false

instance (data : Bytes) (i : Nat) : Decidable (Stands data i) :=
  inferInstanceAs (Decidable (_ = _))

/-- Whether an offset of one text corresponds to an offset of another: it is that of a byte that is no
blank, on the same row, which it opens or not as before. -/
structure Stays (data data' : Bytes) (i i' : Nat) : Prop where
  stands : Stands data' i'
  row : ((Source.ofBytes data').point i').row = ((Source.ofBytes data).point i).row
  startsLine : (Source.ofBytes data').startsLine ((Source.ofBytes data').point i') =
    (Source.ofBytes data).startsLine ((Source.ofBytes data).point i)

variable {data : Bytes}

/-- What stays at its place in two steps stays in both together. -/
lemma Stays.trans {data₁ data₂ : Bytes} {i i₁ i₂ : Nat} (h : Stays data data₁ i i₁)
    (h' : Stays data₁ data₂ i₁ i₂) : Stays data data₂ i i₂ :=
  ⟨h'.stands, h'.row.trans h.row, h'.startsLine.trans h.startsLine⟩

/-- What stands behind the blanks at the start of a row stays when they are replaced by others. -/
lemma stays_splice {before blanks after : Bytes} {f : Fix} {i : Nat}
    (hdata : data = before ++ blanks ++ after)
    (hf : f.Covers before.length (before.length + blanks.length)) (hbefore : Source.IsRowEnd before)
    (hblanks : ∀ b ∈ blanks, Source.isIndentByte b = true)
    (htext : ∀ b ∈ f.text, Source.isIndentByte b = true) (hi : Stands data i) :
    Stays data (f.splice data) i (f.move i) := by
  rw [Fix.splice_append hdata hf]
  subst hdata
  obtain ⟨hfeed, hall⟩ := blanks_of_all hblanks
  obtain ⟨hfeed', hall'⟩ := blanks_of_all htext
  have hrange : f.InRange (before ++ blanks ++ after) := by
    obtain ⟨hstart, hstop⟩ := hf
    unfold Fix.InRange
    simp only [List.length_append]
    omega
  have hspares : i < before.length ∨ before.length + blanks.length ≤ i := by
    by_contra hinside
    obtain ⟨b, hb, hstands⟩ := Option.map_eq_some_iff.mp hi
    rw [List.append_assoc, List.getElem?_append_right (by omega),
      List.getElem?_append_left (by omega)] at hb
    have := isBlankByte_of_isIndentByte (hblanks b (List.mem_of_getElem? hb))
    rw [this] at hstands
    exact absurd hstands nofun
  have hstands : Stands (before ++ f.text ++ after) (f.move i) := by
    unfold Stands
    rw [← Fix.splice_append rfl hf, Fix.getElem?_splice hrange (hf.spares_iff.mpr hspares)]
    exact hi
  rcases hspares with hi | hi
  · have hmove : f.move i = i := by
      rw [hf.move_eq, if_neg (by omega), Nat.min_eq_left (Nat.le_of_lt hi)]
    have htake : (before ++ f.text ++ after).take i = (before ++ blanks ++ after).take i := by
      rw [List.append_assoc, List.append_assoc, List.take_append_of_le_length (Nat.le_of_lt hi),
        List.take_append_of_le_length (Nat.le_of_lt hi)]
    rw [hmove] at hstands ⊢
    refine ⟨hstands, ?_, ?_⟩
    · rw [Source.row_point, Source.row_point, htake]
    · rw [Source.startsLine_point, Source.startsLine_point, htake]
  · obtain ⟨k, rfl⟩ := Nat.exists_eq_add_of_le hi
    have hmove : f.move (before.length + blanks.length + k) = before.length + f.text.length + k := by
      rw [hf.move_eq, if_pos hi]
      omega
    rw [hmove] at hstands ⊢
    obtain ⟨hrow, hstartsLine⟩ :=
      Source.row_and_startsLine_of_blanks after hbefore hfeed hall hfeed' hall' k
    exact ⟨hstands, hrow, hstartsLine⟩

/-- What a text with the expected indentation on some rows has to do with the text as it was. -/
structure Realigned (o : IndentOptions) (rows : Expected) (data data' : Bytes) (move : Nat → Nat) :
    Prop where
  lines : (Source.ofBytes data').lines = realign (.ofBytes data) o rows
  stays : ∀ i, Stands data i → Stays data data' i (move i)

/-- One row with another indentation: what stands behind it stays. -/
lemma stays_rowFix {r : Nat × Nat} (h : r.1 < (Source.ofBytes data).lines.length) {i : Nat}
    (hi : Stands data i) :
    Stays data ((rowFix (.ofBytes data) o r).splice data) i ((rowFix (.ofBytes data) o r).move i) := by
  obtain ⟨before, after, hdata, hlen, hbefore⟩ := Source.exists_row h
  have hcovers : (rowFix (.ofBytes data) o r).Covers before.length
      (before.length + ((Source.ofBytes data).indentation r.1).length) := by
    rw [hlen]
    exact ⟨rfl, rfl⟩
  have htext : ∀ b ∈ (rowFix (.ofBytes data) o r).text, Source.isIndentByte b = true :=
    fun b hb => List.eq_of_mem_replicate hb ▸ isIndentByte_byte o.unit
  have hindentation : ∀ b ∈ (Source.ofBytes data).indentation r.1, Source.isIndentByte b = true :=
    fun b hb => List.mem_takeWhile_imp hb
  -- the row is its indentation and the rest
  have hline : (Source.ofBytes data).line r.1 = (Source.ofBytes data).indentation r.1 ++
      ((Source.ofBytes data).line r.1).dropWhile Source.isIndentByte :=
    List.takeWhile_append_dropWhile.symm
  have hsplit : data = before ++ (Source.ofBytes data).indentation r.1 ++
      (((Source.ofBytes data).line r.1).dropWhile Source.isIndentByte ++ after) := by
    rw [List.append_assoc, ← List.append_assoc (Source.indentation _ _), ← hline, ← List.append_assoc]
    exact hdata
  exact stays_splice hsplit hcovers hbefore hindentation htext hi

section rows

variable (hrows : rows.Pairwise (·.1 < ·.1)) (h : ∀ r ∈ rows, r.1 < (Source.ofBytes data).lines.length)
include hrows h

/-- The edits of different rows fit together. -/
lemma allFit_rowEdit : RowEdit.AllFit (.ofBytes data) (rows.map (rowEdit (.ofBytes data) o)) where
  pairwise := List.pairwise_map.mpr hrows
  fits := List.forall_mem_map.mpr fun r _ => fits_rowEdit _ o r
  lt := List.forall_mem_map.mpr h

/-- Fixes of different rows are separate. -/
lemma separate_rowFix : Fix.Separate (rows.filterMap (rowFix? (.ofBytes data) o)) :=
  fixes_rowEdit _ o rows ▸ (allFit_rowEdit hrows h).separate

/-- Applying the fixes of rows aligns the rows. -/
lemma lines_rowFix :
    (Source.ofBytes ((rows.filterMap (rowFix? (.ofBytes data) o)).foldr Fix.splice data)).lines =
      realign (.ofBytes data) o rows := by
  rw [← fixes_rowEdit, realign_eq]
  exact (allFit_rowEdit hrows h).relined.lines

/-- All rows with the indentation that is expected of them, from the last to the first: what stands behind
it stays. -/
lemma stays_rows {i : Nat} (hi : Stands data i) :
    let fixes := rows.filterMap (rowFix? (.ofBytes data) o)
    Stays data (fixes.foldr Fix.splice data) i (fixes.foldr Fix.move i) := by
  induction rows with
  | nil => exact ⟨hi, rfl, rfl⟩
  | cons r rows ih =>
    rw [List.forall_mem_cons] at h
    obtain ⟨hlt, hrows⟩ := List.pairwise_cons.mp hrows
    have hmoved := ih hrows h.2
    have hlines := lines_rowFix (o := o) hrows h.2
    dsimp only at hmoved ⊢
    rw [List.filterMap_cons]
    split
    case h_1 => exact hmoved
    case h_2 f hfix =>
      rw [List.foldr_cons, List.foldr_cons]
      generalize (rows.filterMap (rowFix? (.ofBytes data) o)).foldr Fix.splice data = data' at *
      -- up to this row the text is as it was
      obtain ⟨hline, hstart⟩ := Source.line_and_rowStart_congr
        ((congrArg (List.take (r.1 + 1)) hlines).trans (take_realign hlt))
      have hsame : f = rowFix (.ofBytes data') o r := by
        rw [eq_of_rowFix? hfix]
        unfold rowFix Source.indentation
        rw [hline, hstart]
      have hlen : r.1 < (Source.ofBytes data').lines.length := by
        rw [hlines, length_realign]
        exact h.1
      rw [hsame]
      exact hmoved.trans (stays_rowFix hlen hmoved.stands)

/-- All in all, the fixes of growing rows realign the text. -/
lemma realigned_rows :
    let fixes := rows.filterMap (rowFix? (.ofBytes data) o)
    Realigned o rows data (fixes.foldr Fix.splice data) fun i => fixes.foldr Fix.move i where
  lines := lines_rowFix hrows h
  stays _ hi := stays_rows hrows h hi

end rows

end Indent

end Diagnosis.Lint
