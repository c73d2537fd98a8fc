import Diagnosis.Proofs.Syntax.Overwrite
import Mathlib.Data.List.GetD

/-!
# Rows and what they begin with

Where rows lie in a text, and what is left as it is when a row begins with other blanks.

* Rows begin one after the other (`rowStart_add_lt`), and what is further on in the text is on no earlier
  row (`row_point_mono`). An offset is on the row between whose start and end it lies (`point_offset`,
  `row_point_eq`).
* Whether only blanks stand before an offset on its row depends on the bytes before it
  (`startsLine_point`). Behind a byte that is no blank, nothing on the row begins it
  (`not_startsLine_of_lt`).
* If blanks at the start of a row are replaced by others, then what is behind them stays on its row, and
  begins it or not as before (`row_and_startsLine_of_blanks`).
-/

namespace Diagnosis.Syntax

open Diagnosis.Text

namespace Source

variable {data : Bytes}

/-! ## The offsets of rows -/

section rowStart

variable {src : Source} {row row' : Nat}

/-- A row starts behind the line feed of the one before. -/
lemma rowStart_succ (h : row < src.lines.length) :
    src.rowStart (row + 1) = src.rowStart row + (src.line row).length + 1 := by
  have hsum : ∀ ns : List Nat, ∀ n, (ns ++ [n]).foldr (· + ·) 0 = ns.foldr (· + ·) 0 + n := by
    intro ns n
    induction ns with
    | nil => simp
    | cons m ns ih => rw [List.cons_append, List.foldr_cons, ih, List.foldr_cons, Nat.add_assoc]
  unfold rowStart line
  rw [List.take_succ_eq_append_getElem h, List.map_append, List.map_singleton, hsum,
    List.getD_eq_getElem _ _ h, Nat.add_assoc]

/-- A row ends before the next ones begin. -/
lemma rowStart_add_lt (hlt : row < row') (h : row < src.lines.length) :
    src.rowStart row + (src.line row).length < src.rowStart row' := by
  have hmono : ∀ k, src.rowStart (row + 1) ≤ src.rowStart (row + 1 + k) := by
    intro k
    induction k with
    | zero => exact Nat.le_refl _
    | succ k ih =>
      refine Nat.le_trans ih ?_
      by_cases hk : row + 1 + k < src.lines.length
      · rw [← Nat.add_assoc, rowStart_succ hk]
        omega
      · unfold rowStart
        rw [List.take_of_length_le (by omega), List.take_of_length_le (by omega)]
  obtain ⟨k, rfl⟩ := Nat.exists_eq_add_of_lt hlt
  have := hmono k
  rw [rowStart_succ h] at this
  rw [Nat.add_right_comm]
  omega

/-- A row and where it begins do not depend on the rows behind it. -/
lemma line_and_rowStart_congr {src' : Source}
    (h : src'.lines.take (row + 1) = src.lines.take (row + 1)) :
    src'.line row = src.line row ∧ src'.rowStart row = src.rowStart row := by
  have hline : ∀ s : Source, s.line row = (s.lines.take (row + 1)).getD row [] := fun s => by
    rw [List.getD_eq_getElem?_getD, List.getElem?_take_of_lt (Nat.lt_succ_self row),
      ← List.getD_eq_getElem?_getD, line]
  have hstart : ∀ s : Source, s.lines.take row = (s.lines.take (row + 1)).take row := fun s => by
    rw [List.take_take, Nat.min_eq_left (Nat.le_succ row)]
  refine ⟨by rw [hline, hline, h], ?_⟩
  unfold rowStart
  rw [hstart, hstart src, h]

/-- A row lies in the text. -/
lemma rowStart_add_le (h : row < (ofBytes data).lines.length) :
    (ofBytes data).rowStart row + ((ofBytes data).line row).length ≤ data.length := by
  obtain ⟨before, after, hdata, hlen, -⟩ := exists_row h
  have := congrArg List.length hdata
  rw [List.length_append, List.length_append] at this
  omega

end rowStart

/-! ## Points -/

/-- The lines and their ends make up the text, with one end too many. -/
lemma sum_lines (data : Bytes) :
    (((ofBytes data).lines.map (·.length + 1)).foldr (· + ·) 0) = data.length + 1 := by
  show ((splitAt lineFeed data).map (·.length + 1)).foldr (· + ·) 0 = data.length + 1
  induction data with
  | nil => rfl
  | cons b data ih =>
    obtain ⟨first, more, hdata⟩ := List.exists_cons_of_ne_nil (splitAt_ne_nil lineFeed data)
    rw [hdata, List.map_cons, List.foldr_cons] at ih
    rw [splitAt, hdata, List.length_cons]
    dsimp only
    by_cases hb : b = lineFeed
    · rw [if_pos (beq_iff_eq.mpr hb), List.map_cons, List.map_cons, List.foldr_cons, List.foldr_cons,
        List.length_nil]
      omega
    · rw [if_neg (by simpa using hb), List.map_cons, List.foldr_cons, List.length_cons]
      omega

/-- A point lies so far behind the start of its row as its column says, and not behind the end. -/
lemma pointIn_offset {lines : List Bytes} {offset : Nat} (row : Nat)
    (h : offset < (lines.map (·.length + 1)).foldr (· + ·) 0) :
    ∃ k, (pointIn row lines offset).row = row + k ∧
      offset = ((lines.take k).map (·.length + 1)).foldr (· + ·) 0 + (pointIn row lines offset).column ∧
      (pointIn row lines offset).column ≤ (lines.getD k []).length := by
  fun_induction pointIn row lines offset with
  | case1 row offset => exact absurd h (Nat.not_lt_zero _)
  | case2 row line offset =>
    simp only [List.map_cons, List.map_nil, List.foldr_cons, List.foldr_nil, Nat.add_zero] at h
    exact ⟨0, rfl, (Nat.zero_add _).symm, Nat.le_of_lt_succ h⟩
  | case3 row line lines offset _ hle => exact ⟨0, rfl, (Nat.zero_add _).symm, hle⟩
  | case4 row line lines offset _ hlt ih =>
    rw [List.map_cons, List.foldr_cons] at h
    obtain ⟨k, hrow, hoffset, hcolumn⟩ := ih (by omega)
    refine ⟨k + 1, by omega, ?_, hcolumn⟩
    rw [List.take_succ_cons, List.map_cons, List.foldr_cons]
    omega

/-- An offset of the text lies on its row. -/
lemma point_offset {i : Nat} (hi : i ≤ data.length) :
    (ofBytes data).rowStart ((ofBytes data).point i).row ≤ i ∧
      i ≤ (ofBytes data).rowStart ((ofBytes data).point i).row +
        ((ofBytes data).line ((ofBytes data).point i).row).length := by
  have hlt : i < ((ofBytes data).lines.map (·.length + 1)).foldr (· + ·) 0 := by
    rw [sum_lines]
    exact Nat.lt_succ_of_le hi
  obtain ⟨k, hrow, hoffset, hcolumn⟩ := pointIn_offset 0 hlt
  rw [Nat.zero_add] at hrow
  unfold point rowStart line
  rw [hrow]
  omega

/-- What lies between the start and the end of a row is on this row. -/
lemma row_point_eq {row i : Nat} (hrow : row < (ofBytes data).lines.length)
    (hstart : (ofBytes data).rowStart row ≤ i)
    (hend : i ≤ (ofBytes data).rowStart row + ((ofBytes data).line row).length) :
    ((ofBytes data).point i).row = row := by
  obtain ⟨hle, hge⟩ := point_offset (Nat.le_trans hend (rowStart_add_le hrow))
  rcases Nat.lt_trichotomy ((ofBytes data).point i).row row with hlt | heq | hlt
  · have := rowStart_add_lt hlt (point_row_lt data i)
    omega
  · exact heq
  · have := rowStart_add_lt hlt hrow
    omega

/-- A byte of a row is a byte of the text. -/
lemma getElem?_rowStart_add {row k : Nat} (hrow : row < (ofBytes data).lines.length)
    (hk : k < ((ofBytes data).line row).length) :
    data[(ofBytes data).rowStart row + k]? = ((ofBytes data).line row)[k]? := by
  obtain ⟨before, after, hdata, hlen, -⟩ := exists_row hrow
  have hdrop : data.drop ((ofBytes data).rowStart row) = (ofBytes data).line row ++ after := by
    rw [← hlen]
    conv_lhs => rw [hdata]
    rw [List.append_assoc, List.drop_left]
  rw [← List.getElem?_drop, hdrop, List.getElem?_append_left hk]

/-- The row of an offset is the number of line feeds before it. -/
lemma row_point (data : Bytes) (i : Nat) :
    ((ofBytes data).point i).row = (data.take i).count lineFeed := by
  obtain ⟨hrow, -⟩ := pointIn_spec (show splitAt lineFeed data = _ from rfl) 0 i
  rwa [Nat.zero_add] at hrow

/-- What stands before an offset on its row. -/
lemma startsLine_point (data : Bytes) (i : Nat) :
    (ofBytes data).startsLine ((ofBytes data).point i) =
      (lastLine (data.take i)).all isBlankByte := by
  obtain ⟨-, hcolumn⟩ := pointIn_spec (show splitAt lineFeed data = _ from rfl) 0 i
  have hrow := row_point data i
  unfold startsLine line
  rw [hrow]
  unfold point ofBytes
  dsimp only
  rw [hcolumn]

/-- Rows grow with offsets. -/
lemma row_point_mono (data : Bytes) {i j : Nat} (hij : i ≤ j) :
    ((ofBytes data).point i).row ≤ ((ofBytes data).point j).row := by
  rw [row_point, row_point]
  exact (List.take_prefix_take_left hij).sublist.count_le lineFeed

/-- Behind a byte that is no blank, nothing on the same row begins it. -/
lemma not_startsLine_of_lt {i j : Nat} {b : UInt8} (hb : data[i]? = some b)
    (hblank : isBlankByte b = false) (hij : i < j)
    (hrow : ((ofBytes data).point i).row = ((ofBytes data).point j).row) :
    (ofBytes data).startsLine ((ofBytes data).point j) = false := by
  obtain ⟨hi, hget⟩ := List.getElem?_eq_some_iff.mp hb
  -- what stands before `j` is what stands before `i`, the byte, and more
  have hsplit : data.take j = data.take i ++ b :: (data.drop (i + 1)).take (j - (i + 1)) := by
    rw [show j = i + (j - (i + 1) + 1) by omega, List.take_add, List.drop_eq_getElem_cons hi, hget,
      List.take_succ_cons]
    congr 4
    omega
  rw [row_point, row_point, hsplit, List.count_append] at hrow
  have hnone : lineFeed ∉ b :: (data.drop (i + 1)).take (j - (i + 1)) :=
    List.count_eq_zero.mp (by omega)
  rw [startsLine_point, hsplit, lastLine_append_of_not_mem hnone, List.all_append, List.all_cons,
    hblank, Bool.false_and, Bool.and_false]

/-! ## Other blanks at the start of a row -/

/-- Whether bytes end where a row begins. -/
def IsRowEnd (before : Bytes) : Prop := before = [] ∨ before.getLast? = some lineFeed

/-- At the end of a row, the last line is empty. -/
lemma IsRowEnd.lastLine_eq {before : Bytes} (h : IsRowEnd before) : lastLine before = [] := by
  rcases h with rfl | hlast
  · rfl
  · obtain ⟨init, rfl⟩ := List.getLast?_eq_some_iff.mp hlast
    exact lastLine_append_lineFeed init []

variable {before blanks : Bytes}

/-- Blanks on a row add no line feed. -/
lemma count_append_blanks (hblanks : lineFeed ∉ blanks) (c : Bytes) :
    (before ++ blanks ++ c).count lineFeed = before.count lineFeed + c.count lineFeed := by
  rw [List.count_append, List.count_append, List.count_eq_zero.mpr hblanks, Nat.add_zero]

/-- Blanks at the start of a row do not matter to what begins it. -/
lemma all_lastLine_blanks (hbefore : IsRowEnd before) (hfeed : lineFeed ∉ blanks)
    (hblanks : blanks.all isBlankByte = true) (c : Bytes) :
    (lastLine (before ++ blanks ++ c)).all isBlankByte = (lastLine c).all isBlankByte := by
  by_cases hc : lineFeed ∈ c
  · obtain ⟨init, hsplit⟩ := exists_eq_append_lastLine hc
    rw [hsplit, ← List.append_assoc, lastLine_append_lineFeed, lastLine_append_lineFeed]
  · rw [lastLine_append_of_not_mem hc, lastLine_append_of_not_mem hfeed, hbefore.lastLine_eq,
      lastLine_of_not_mem hc, List.nil_append, List.all_append, hblanks, Bool.true_and]

/-- **Other blanks.** What is behind the blanks with which a row begins stays on its row when they are
replaced by others, and begins it or not as before. -/
theorem row_and_startsLine_of_blanks (after : Bytes) {others : Bytes} (hbefore : IsRowEnd before)
    (hfeed : lineFeed ∉ blanks) (hblanks : blanks.all isBlankByte = true)
    (hfeed' : lineFeed ∉ others) (hothers : others.all isBlankByte = true) (k : Nat) :
    let src := ofBytes (before ++ blanks ++ after)
    let src' := ofBytes (before ++ others ++ after)
    let i := before.length + blanks.length + k
    let i' := before.length + others.length + k
    (src'.point i').row = (src.point i).row ∧
      src'.startsLine (src'.point i') = src.startsLine (src.point i) := by
  have htake : ∀ b : Bytes, (before ++ b ++ after).take (before.length + b.length + k) =
      before ++ b ++ after.take k := by
    intro b
    rw [← List.length_append, List.take_length_add_append]
  refine ⟨?_, ?_⟩
  · rw [row_point, row_point, htake, htake, count_append_blanks hfeed, count_append_blanks hfeed']
  · rw [startsLine_point, startsLine_point, htake, htake, all_lastLine_blanks hbefore hfeed hblanks,
      all_lastLine_blanks hbefore hfeed' hothers]

end Source

end Diagnosis.Syntax
