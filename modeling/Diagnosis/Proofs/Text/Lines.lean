import Diagnosis.Syntax.Source
import Mathlib.Data.List.Basic
import Mathlib.Data.List.GetD

/-!
# Lines and rows

Where the lines of a text lie. The pieces of `splitAt` are found one after the other in the text,
one separator apart (`splitAt_eq_cons`); so a row of a `Source` stands at the offset `rowStart`
(`Source.exists_row`), and another line in its place makes no difference to the other rows
(`Source.exists_row_set`). The row of a point is a row of the text (`Source.point_row_lt`), whatever the
offset; so is the row on which a beginning of the text ends (`Source.count_lt_of_prefix`).
-/

namespace Diagnosis.Text

variable {α : Type} [BEq α] {sep : α}

/-- Splitting always gives a piece. -/
lemma splitAt_ne_nil (sep : α) (xs : List α) : splitAt sep xs ≠ [] := by
  cases xs with
  | nil => simp [splitAt]
  | cons x xs =>
    rw [splitAt]
    split
    · simp
    · split <;> simp

/-- The first piece ends with the text or in front of the first separator. -/
lemma splitAt_eq_cons [LawfulBEq α] {xs line : List α} {more : List (List α)}
    (h : splitAt sep xs = line :: more) :
    (xs = line ∧ more = []) ∨ ∃ rest, xs = line ++ sep :: rest ∧ more = splitAt sep rest := by
  induction xs generalizing line more with
  | nil =>
    rw [splitAt, List.cons.injEq] at h
    exact .inl ⟨h.1, h.2.symm⟩
  | cons x xs ih =>
    obtain ⟨first, others, hxs⟩ := List.exists_cons_of_ne_nil (splitAt_ne_nil sep xs)
    rw [splitAt, hxs] at h
    by_cases hx : x = sep
    · subst hx
      simp only [beq_self_eq_true, if_true, List.cons.injEq] at h
      obtain ⟨rfl, rfl⟩ := h
      exact .inr ⟨xs, rfl, hxs.symm⟩
    · simp only [beq_iff_eq, hx, if_false, List.cons.injEq] at h
      obtain ⟨rfl, rfl⟩ := h
      obtain ⟨rfl, rfl⟩ | ⟨rest, rfl, rfl⟩ := ih hxs
      · exact .inl ⟨rfl, rfl⟩
      · exact .inr ⟨rest, rfl, rfl⟩

/-- A piece without separators, and what is behind the separator after it. -/
lemma splitAt_append_cons [LawfulBEq α] {piece : List α} (h : sep ∉ piece) (rest : List α) :
    splitAt sep (piece ++ sep :: rest) = piece :: splitAt sep rest := by
  obtain ⟨first, more, hrest⟩ := List.exists_cons_of_ne_nil (splitAt_ne_nil sep rest)
  induction piece with
  | nil =>
    rw [List.nil_append, splitAt, hrest]
    simp
  | cons x piece ih =>
    rw [List.mem_cons, not_or] at h
    rw [List.cons_append, splitAt, ih h.2]
    simp [Ne.symm h.1]

/-- Without a separator there is nothing to split. -/
lemma splitAt_of_not_mem [LawfulBEq α] {piece : List α} (h : sep ∉ piece) :
    splitAt sep piece = [piece] := by
  induction piece with
  | nil => rfl
  | cons x piece ih =>
    rw [List.mem_cons, not_or] at h
    rw [splitAt, ih h.2]
    simp [Ne.symm h.1]

/-- The pieces between separators hold none. -/
lemma not_mem_of_mem_splitAt [LawfulBEq α] {xs line : List α} (h : line ∈ splitAt sep xs) :
    sep ∉ line := by
  induction xs generalizing line with
  | nil =>
    rw [splitAt, List.mem_singleton] at h
    rw [h]
    exact List.not_mem_nil
  | cons x xs ih =>
    obtain ⟨first, more, hxs⟩ := List.exists_cons_of_ne_nil (splitAt_ne_nil sep xs)
    rw [splitAt, hxs] at h
    rw [hxs] at ih
    dsimp only at h
    by_cases hx : x = sep
    · rw [if_pos (beq_iff_eq.mpr hx), List.mem_cons] at h
      obtain rfl | h := h
      · exact List.not_mem_nil
      · exact ih h
    · rw [if_neg (by simpa using hx), List.mem_cons] at h
      obtain rfl | h := h
      · exact List.not_mem_cons_of_ne_of_not_mem (Ne.symm hx) (ih List.mem_cons_self)
      · exact ih (List.mem_cons_of_mem first h)

/-- There is one piece more than there are separators. -/
lemma length_splitAt [LawfulBEq α] (sep : α) (xs : List α) :
    (splitAt sep xs).length = xs.count sep + 1 := by
  induction xs with
  | nil => rfl
  | cons x xs ih =>
    obtain ⟨first, more, hxs⟩ := List.exists_cons_of_ne_nil (splitAt_ne_nil sep xs)
    rw [hxs, List.length_cons] at ih
    rw [splitAt, hxs, List.count_cons]
    by_cases hx : x = sep
    · simp [hx, ih]
    · simp [hx, ih]

/-- The pieces make up the text, with a separator between each two. -/
lemma intercalate_splitAt [LawfulBEq α] (sep : α) (xs : List α) :
    [sep].intercalate (splitAt sep xs) = xs := by
  induction xs with
  | nil => rfl
  | cons x xs ih =>
    obtain ⟨first, more, hxs⟩ := List.exists_cons_of_ne_nil (splitAt_ne_nil sep xs)
    rw [hxs] at ih
    rw [splitAt, hxs]
    by_cases hx : x = sep
    · subst hx
      rw [← ih]
      simp [List.intercalate]
    · rw [← ih]
      cases more <;> simp [List.intercalate, hx]

/-- A text without line boundaries is one line. -/
lemma lines_eq_singleton {s : List Char} (hne : s ≠ []) (h : ∀ c ∈ s, isLineBoundary c = false) :
    lines s = [s] := by
  have hbody : linesWithEnds s = [⟨s, []⟩] := by
    induction s with
    | nil => exact absurd rfl hne
    | cons c rest ih =>
      obtain ⟨hc, hrest⟩ := List.forall_mem_cons.mp h
      have hreturn : c ≠ '\r' := by
        rintro rfl
        exact absurd hc (by decide)
      rw [linesWithEnds.eq_3 c rest fun _ hr _ => hreturn hr, hc]
      cases rest with
      | nil => rfl
      | cons d rest =>
        rw [ih (List.cons_ne_nil d rest) hrest]
        rfl
  rw [lines, hbody, List.map_singleton]

end Diagnosis.Text

namespace Diagnosis.Syntax.Source

open Diagnosis.Text

/-- A row stands in the text at its start, at the beginning of the text or after a line feed; another
line can take its place. -/
theorem exists_row_set {data : Bytes} {row : Nat} (h : row < (ofBytes data).lines.length) :
    ∃ before after, data = before ++ (ofBytes data).line row ++ after ∧
      before.length = (ofBytes data).rowStart row ∧
      (before = [] ∨ before.getLast? = some lineFeed) ∧
      ∀ new, lineFeed ∉ new →
        (ofBytes (before ++ new ++ after)).lines = (ofBytes data).lines.set row new := by
  unfold ofBytes line rowStart at *
  dsimp only at *
  induction row generalizing data with
  | zero =>
    obtain ⟨first, more, hdata⟩ := List.exists_cons_of_ne_nil (splitAt_ne_nil lineFeed data)
    rw [hdata]
    obtain ⟨rfl, rfl⟩ | ⟨rest, rfl, rfl⟩ := splitAt_eq_cons hdata
    · refine ⟨[], [], by simp, rfl, .inl rfl, fun new hnew => ?_⟩
      rw [List.nil_append, List.append_nil, splitAt_of_not_mem hnew]
      rfl
    · refine ⟨[], lineFeed :: rest, by simp, rfl, .inl rfl, fun new hnew => ?_⟩
      rw [List.nil_append, splitAt_append_cons hnew]
      rfl
  | succ row ih =>
    obtain ⟨first, more, hdata⟩ := List.exists_cons_of_ne_nil (splitAt_ne_nil lineFeed data)
    have hfirst : lineFeed ∉ first := not_mem_of_mem_splitAt (hdata ▸ List.mem_cons_self)
    rw [hdata] at h ⊢
    obtain ⟨rfl, rfl⟩ | ⟨rest, rfl, rfl⟩ := splitAt_eq_cons hdata
    · simp at h
    · -- the rows after the first are the rows of the rest
      obtain ⟨before, after, hrest, hlen, hlast, hset⟩ :=
        ih (by simpa using h : row < (splitAt lineFeed rest).length)
      refine ⟨first ++ lineFeed :: before, after, ?_, ?_, .inr ?_, fun new hnew => ?_⟩
      · conv_lhs => rw [hrest]
        simp
      · simp [hlen]
        omega
      · obtain rfl | hlast := hlast <;> simp [List.getLast?_cons, *]
      · rw [List.append_assoc, List.append_assoc, List.cons_append, splitAt_append_cons hfirst,
          ← List.append_assoc, hset new hnew, List.set_cons_succ]

/-- A row stands in the text at its start, at the beginning of the text or after a line feed. -/
theorem exists_row {data : Bytes} {row : Nat} (h : row < (ofBytes data).lines.length) :
    ∃ before after, data = before ++ (ofBytes data).line row ++ after ∧
      before.length = (ofBytes data).rowStart row ∧
      (before = [] ∨ before.getLast? = some lineFeed) := by
  obtain ⟨before, after, hdata, hlen, hlast, -⟩ := exists_row_set h
  exact ⟨before, after, hdata, hlen, hlast⟩

/-- A row holds no line feed. -/
lemma lineFeed_not_mem_line {data : Bytes} {row : Nat} (h : row < (ofBytes data).lines.length) :
    lineFeed ∉ (ofBytes data).line row := by
  rw [line, List.getD_eq_getElem _ _ h]
  exact not_mem_of_mem_splitAt (List.getElem_mem h)

/-- The row of a point is one of the lines. -/
lemma pointIn_row_lt {lines : List Bytes} (h : lines ≠ []) (row offset : Nat) :
    (pointIn row lines offset).row < row + lines.length := by
  fun_induction pointIn row lines offset with
  | case1 row offset => exact absurd rfl h
  | case2 row line offset => simp
  | case3 row line lines offset _ _ => simp
  | case4 row line lines offset hne hlt ih =>
    have := ih (by simpa using hne)
    simp only [List.length_cons]
    omega

/-- Every point lies on a row of the text. -/
lemma point_row_lt (data : Bytes) (offset : Nat) :
    ((ofBytes data).point offset).row < (ofBytes data).lines.length := by
  have := pointIn_row_lt (splitAt_ne_nil lineFeed data) 0 offset
  rwa [Nat.zero_add] at this

/-- The row on which a beginning of the text ends is a row of the text. -/
lemma count_lt_of_prefix {data kept : Bytes} (h : kept <+: data) :
    kept.count lineFeed < (ofBytes data).lines.length := by
  have hcount : kept.count lineFeed ≤ data.count lineFeed := h.sublist.count_le lineFeed
  have hrows : (ofBytes data).lines.length = data.count lineFeed + 1 := length_splitAt lineFeed data
  omega

/-- There is a last row. -/
lemma lastRow_lt (data : Bytes) : (ofBytes data).lines.length - 1 < (ofBytes data).lines.length := by
  have hpos := count_lt_of_prefix (List.nil_prefix (l := data))
  omega

end Diagnosis.Syntax.Source
