import Diagnosis.Proofs.Syntax.Overwrite
import Diagnosis.Proofs.Text.Cut
import Mathlib.Data.List.GetD

/-!
# Places in a text

What places mean in terms of characters. Nothing here speaks of bytes but the offsets themselves.

* `Place.IsIn`: a place lies on a line of the text, at one of the characters of the line or behind the
  last. Every point on a row of the text has such a place (`isIn_place`), whatever its column: a point
  behind the line counts as its end, and a point inside a character as the end of the character.
* `Place.IsAt`: a place is that of an offset. The place of a point that cuts no character is exactly that
  (`isAt_place_point`).
* Points further on never have an earlier place (`place_le_place`, `place_point_le`).
-/

namespace Diagnosis.Syntax

open Diagnosis.Text

/-! ## The lines of a text and of its bytes -/

/-- Only a line feed is written with the byte that ends a line. -/
lemma lineFeed_not_mem {c : Char} (hc : c ≠ '\n') : lineFeed ∉ String.utf8EncodeChar c :=
  not_mem_utf8EncodeChar_of_ne hc

/-- A line feed is written as one byte. -/
lemma utf8EncodeChar_lineFeed : String.utf8EncodeChar '\n' = [lineFeed] := by
  decide

/-- Bytes without a separator join the first piece. -/
lemma splitAt_append_of_not_mem {a b first : Bytes} {more : List Bytes} (ha : lineFeed ∉ a)
    (h : splitAt lineFeed b = first :: more) :
    splitAt lineFeed (a ++ b) = (a ++ first) :: more := by
  induction a with
  | nil => exact h
  | cons x a ih =>
    rw [List.mem_cons, not_or] at ha
    rw [List.cons_append, splitAt, ih ha.2]
    simp [Ne.symm ha.1]

/-- A text falls into the same lines as its bytes. -/
lemma splitAt_encode (s : List Char) :
    splitAt lineFeed (encode s) = (splitAt '\n' s).map encode := by
  induction s with
  | nil => rfl
  | cons c s ih =>
    obtain ⟨first, more, hs⟩ := List.exists_cons_of_ne_nil (splitAt_ne_nil '\n' s)
    rw [hs, List.map_cons] at ih
    rw [encode_cons, splitAt, hs]
    by_cases hc : c = '\n'
    · rw [hc, utf8EncodeChar_lineFeed, List.singleton_append, splitAt, ih]
      simp [encode]
    · rw [splitAt_append_of_not_mem (lineFeed_not_mem hc) ih]
      simp [hc, encode_cons]

/-- The place behind characters. -/
def placeBehind (before : List Char) : Place :=
  ⟨before.count '\n' + 1, (before.rtakeWhile (· ≠ '\n')).length + 1⟩

/-- Line feeds may be counted in the bytes or in the characters. -/
lemma count_encode (s : List Char) : (encode s).count lineFeed = s.count '\n' := by
  induction s with
  | nil => rfl
  | cons c s ih =>
    rw [encode_cons, List.count_append, ih]
    by_cases hc : c = '\n'
    · rw [hc, utf8EncodeChar_lineFeed, List.count_singleton_self, List.count_cons_self, Nat.add_comm]
    · rw [List.count_eq_zero.mpr (lineFeed_not_mem hc), List.count_cons_of_ne hc, Nat.zero_add]

/-- The last line may be taken of the bytes or of the characters. -/
lemma lastLine_encode (s : List Char) :
    lastLine (encode s) = encode (s.rtakeWhile (· ≠ '\n')) := by
  induction s using List.reverseRecOn with
  | nil => rfl
  | append_singleton s c ih =>
    have hlast : encode [c] = String.utf8EncodeChar c := by simp [encode]
    rw [encode_append, hlast]
    by_cases hc : c = '\n'
    · rw [hc, utf8EncodeChar_lineFeed, lastLine_append_lineFeed, List.rtakeWhile_concat_neg _ _ _ (by simp)]
      rfl
    · rw [lastLine_append_of_not_mem (lineFeed_not_mem hc), ih,
        List.rtakeWhile_concat_pos _ _ _ (by simpa using hc), encode_append, hlast]

/-- The place behind characters is the place behind their bytes. -/
lemma placeAfter_encode (s : List Char) : placeAfter (encode s) = placeBehind s := by
  rw [placeAfter, placeBehind, count_encode, lastLine_encode, decode_encode]

/-! ## Places that lie in the text -/

/-- Whether a place lies in a text. -/
structure Place.IsIn (s : List Char) (p : Place) : Prop where
  /-- Lines are counted from one. -/
  line_pos : 1 ≤ p.line
  /-- There is such a line. -/
  line_le : p.line ≤ (splitAt '\n' s).length
  /-- Characters are counted from one. -/
  column_pos : 1 ≤ p.column
  /-- The line has the character, or ends before it. -/
  column_le : p.column ≤ ((splitAt '\n' s).getD (p.line - 1) []).length + 1

/-- Whether a place is that of an offset between two characters. -/
def Place.IsAt (s : List Char) (i : Nat) (p : Place) : Prop :=
  ∃ before, before <+: s ∧ (encode before).length = i ∧ p = placeBehind before

section source

variable {s : List Char}

/-- There are as many rows as lines of characters. -/
lemma length_lines (s : List Char) :
    (Source.ofBytes (encode s)).lines.length = (splitAt '\n' s).length := by
  simp [Source.ofBytes, splitAt_encode]

/-- A row is the bytes of a line of characters. -/
lemma line_encode (s : List Char) (row : Nat) :
    (Source.ofBytes (encode s)).line row = encode ((splitAt '\n' s).getD row []) := by
  unfold Source.line Source.ofBytes
  dsimp only
  rw [splitAt_encode]
  exact List.getD_map (splitAt '\n' s) [] encode

/-- **Every point on a row of the text has a place in the text.** -/
theorem isIn_place {p : Point} (h : p.row < (Source.ofBytes (encode s)).lines.length) :
    ((Source.ofBytes (encode s)).place p).IsIn s := by
  rw [length_lines] at h
  have hcolumn := (isText_encode ((splitAt '\n' s).getD p.row [])).length_decode_take_le p.column
  rw [decode_encode] at hcolumn
  unfold Source.place
  rw [line_encode]
  refine ⟨Nat.le_add_left _ _, h, Nat.le_add_left _ _, ?_⟩
  exact Nat.succ_le_succ hcolumn

/-- The place of an offset lies in the text. -/
lemma isIn_place_point (s : List Char) (i : Nat) :
    ((Source.ofBytes (encode s)).place ((Source.ofBytes (encode s)).point i)).IsIn s :=
  isIn_place (Source.point_row_lt _ i)

/-- **The place of an offset is exact**, if it cuts no character. -/
theorem isAt_place_point {i : Nat} (h : IsBoundary (encode s) i) :
    ((Source.ofBytes (encode s)).place ((Source.ofBytes (encode s)).point i)).IsAt s i := by
  obtain ⟨before, after, rfl, rfl⟩ := h.exists_eq_append
  refine ⟨before, List.prefix_append before after, rfl, ?_⟩
  rw [place_point, encode_append, List.take_left, placeAfter_encode]

/-! ## The order of places -/

/-- One place is not behind another: it is on an earlier line, or on the same and not further on. -/
instance : LE Place := ⟨fun p q => p.line < q.line ∨ p.line = q.line ∧ p.column ≤ q.column⟩

/-- Places are ordered by their lines, and on a line by their columns. -/
lemma Place.le_iff {p q : Place} :
    p ≤ q ↔ p.line < q.line ∨ p.line = q.line ∧ p.column ≤ q.column := Iff.rfl

instance (p q : Place) : Decidable (p ≤ q) := decidable_of_iff _ Place.le_iff.symm

/-- On a row, a column further on has no earlier place. -/
lemma place_le_place (s : List Char) (row : Nat) {j k : Nat} (hjk : j ≤ k) :
    (Source.ofBytes (encode s)).place ⟨row, j⟩ ≤ (Source.ofBytes (encode s)).place ⟨row, k⟩ := by
  have hcolumns := (isText_encode ((splitAt '\n' s).getD row [])).length_decode_take_mono hjk
  right
  refine ⟨rfl, ?_⟩
  unfold Source.place
  rw [line_encode]
  exact Nat.succ_le_succ hcolumns

/-- Searching a point never goes back to an earlier row. -/
lemma row_le_row_pointIn (row : Nat) (lines : List Bytes) (i : Nat) :
    row ≤ (Source.pointIn row lines i).row := by
  fun_induction Source.pointIn row lines i with
  | case1 => exact Nat.le_refl _
  | case2 => exact Nat.le_refl _
  | case3 => exact Nat.le_refl _
  | case4 row line lines i _ _ ih => exact Nat.le_of_succ_le ih

/-- Offsets further on have later points. -/
lemma pointIn_mono (row : Nat) (lines : List Bytes) {i j : Nat} (hij : i ≤ j) :
    (Source.pointIn row lines i).row < (Source.pointIn row lines j).row ∨
      (Source.pointIn row lines i).row = (Source.pointIn row lines j).row ∧
        (Source.pointIn row lines i).column ≤ (Source.pointIn row lines j).column := by
  induction lines generalizing row i j with
  | nil => exact .inr ⟨rfl, hij⟩
  | cons line more ih =>
    cases more with
    | nil => exact .inr ⟨rfl, hij⟩
    | cons next more =>
      rw [Source.pointIn.eq_3 _ _ _ _ (List.cons_ne_nil next more),
        Source.pointIn.eq_3 _ _ _ _ (List.cons_ne_nil next more)]
      by_cases hi : i ≤ line.length
      · rw [if_pos hi]
        by_cases hj : j ≤ line.length
        · rw [if_pos hj]
          exact .inr ⟨rfl, hij⟩
        · rw [if_neg hj]
          exact .inl (row_le_row_pointIn (row + 1) (next :: more) _)
      · rw [if_neg hi, if_neg (by omega)]
        exact ih (row + 1) (by omega)

/-- Offsets further on have no earlier places. -/
lemma place_point_le (s : List Char) {i j : Nat} (hij : i ≤ j) :
    (Source.ofBytes (encode s)).place ((Source.ofBytes (encode s)).point i) ≤
      (Source.ofBytes (encode s)).place ((Source.ofBytes (encode s)).point j) := by
  have hmono := pointIn_mono 0 (Source.ofBytes (encode s)).lines hij
  unfold Source.point
  generalize Source.pointIn 0 (Source.ofBytes (encode s)).lines i = p at hmono
  generalize Source.pointIn 0 (Source.ofBytes (encode s)).lines j = q at hmono
  obtain ⟨row, column⟩ := p
  obtain ⟨row', column'⟩ := q
  rcases hmono with hrow | ⟨rfl, hcolumn⟩
  · exact .inl (Nat.succ_lt_succ hrow)
  · exact place_le_place s row hcolumn

end source

end Diagnosis.Syntax
