import Diagnosis.Proofs.Text.Lines
import Diagnosis.Proofs.Text.Utf8
import Mathlib.Data.List.DropRight

/-!
# Overwriting words

A word of a text is overwritten with another one that has as many bytes and as many characters. Where
a place lies depends only on the bytes before it (`place_point`): on the line feeds among them, and on
the characters after the last line feed. So no place moves, unless it lies inside the word, and other
stretches keep their bytes.

* One word: `between_overwrite`, `placeAfter_take_overwrite`.
* **Several words** that do not overlap (`overwriteAll_spec`), by induction on the words: each that is
  overwritten leaves the others words (`WordAt.overwrite`).
-/

namespace Diagnosis.Text

/-! ## Texts in a row -/

/-- Behind a text, reading begins anew. -/
lemma IsText.decode_append {a : Bytes} (ha : IsText a) (b : Bytes) :
    decode (a ++ b) = decode a ++ decode b := by
  obtain ⟨s, rfl⟩ := ha
  rw [decode_encode]
  induction s with
  | nil => rfl
  | cons c s ih => rw [encode_cons, List.append_assoc, decode_utf8EncodeChar_append, ih]; rfl

end Diagnosis.Text

namespace Diagnosis.Syntax

open Diagnosis.Text

variable {data a b : Bytes}

/-! ## Places and the bytes before them -/

/-- What stands behind the last line feed. -/
def lastLine (before : Bytes) : Bytes := before.rtakeWhile (· ≠ lineFeed)

/-- The place behind bytes. -/
def placeAfter (before : Bytes) : Place :=
  ⟨before.count lineFeed + 1, (decode (lastLine before)).length + 1⟩

/-- Whether a byte is no line feed. -/
lemma ne_of_mem {x : UInt8} (h : lineFeed ∉ a) (hx : x ∈ a) : decide (x ≠ lineFeed) = true :=
  decide_eq_true fun heq => h (heq ▸ hx)

/-- Bytes without a line feed are one line. -/
lemma lastLine_of_not_mem (h : lineFeed ∉ a) : lastLine a = a :=
  List.rtakeWhile_eq_self_iff.mpr fun _ => ne_of_mem h

/-- Bytes without a line feed make the last line longer. -/
lemma lastLine_append_of_not_mem (h : lineFeed ∉ b) : lastLine (a ++ b) = lastLine a ++ b := by
  unfold lastLine List.rtakeWhile
  rw [List.reverse_append, List.takeWhile_append_of_pos fun _ hx => ne_of_mem h
    (List.mem_reverse.mp hx), List.reverse_append, List.reverse_reverse]

/-- A line feed ends the last line, and what comes before it does not count. -/
lemma lastLine_append_lineFeed (a b : Bytes) : lastLine (a ++ lineFeed :: b) = lastLine b := by
  induction b using List.reverseRecOn with
  | nil =>
    unfold lastLine
    rw [List.rtakeWhile_concat, if_neg (by simp), List.rtakeWhile_nil]
  | append_singleton b x ih =>
    unfold lastLine at ih ⊢
    rw [← List.cons_append, ← List.append_assoc, List.rtakeWhile_concat, List.rtakeWhile_concat, ih]

/-- Before the last line comes a line feed, if there is one. -/
lemma exists_eq_append_lastLine (h : lineFeed ∈ a) :
    ∃ before, a = before ++ lineFeed :: lastLine a := by
  induction a using List.reverseRecOn with
  | nil => exact absurd h List.not_mem_nil
  | append_singleton a x ih =>
    by_cases hx : x = lineFeed
    · rw [hx]
      exact ⟨a, congrArg (a ++ ·) (congrArg _ (lastLine_append_lineFeed a []).symm)⟩
    · have ha : lineFeed ∈ a := by simpa [Ne.symm hx] using h
      obtain ⟨before, hsplit⟩ := ih ha
      refine ⟨before, ?_⟩
      rw [lastLine_append_of_not_mem (by simpa using Ne.symm hx), ← List.cons_append,
        ← List.append_assoc, ← hsplit]

/-- The last line of a text is a text. -/
lemma isText_lastLine (h : IsText a) : IsText (lastLine a) := by
  by_cases hmem : lineFeed ∈ a
  · obtain ⟨before, hsplit⟩ := exists_eq_append_lastLine hmem
    have hfeed : a[before.length]? = some lineFeed := by
      rw [hsplit, List.getElem?_append_right (Nat.le_refl _), Nat.sub_self]
      rfl
    have hdrop := h.drop (h.isBoundary_succ hfeed (by decide))
    have hlast : a.drop (before.length + 1) = lastLine a := by
      conv_lhs => rw [hsplit]
      simp
    rwa [hlast] at hdrop
  · rwa [lastLine_of_not_mem hmem]

/-- Where a point lies on its line. -/
lemma pointIn_spec {lines : List Bytes} (h : splitAt lineFeed data = lines) (row k : Nat) :
    (Source.pointIn row lines k).row = row + (data.take k).count lineFeed ∧
      (lines.getD ((data.take k).count lineFeed) []).take (Source.pointIn row lines k).column =
        lastLine (data.take k) := by
  induction lines generalizing data row k with
  | nil => exact absurd h (splitAt_ne_nil lineFeed data)
  | cons first more ih =>
    have hfirst : lineFeed ∉ first := not_mem_of_mem_splitAt (h ▸ List.mem_cons_self)
    have hwithin : ∀ k, (first.take k).count lineFeed = 0 ∧ lastLine (first.take k) = first.take k :=
      fun k =>
        have hk := fun hmem => hfirst (List.mem_of_mem_take hmem)
        ⟨List.count_eq_zero.mpr hk, lastLine_of_not_mem hk⟩
    obtain ⟨rfl, rfl⟩ | ⟨rest, rfl, hmore⟩ := splitAt_eq_cons h
    · obtain ⟨hcount, hlast⟩ := hwithin k
      rw [hcount, hlast]
      exact ⟨rfl, rfl⟩
    · obtain ⟨l, ls, rfl⟩ := List.exists_cons_of_ne_nil (hmore ▸ splitAt_ne_nil lineFeed rest)
      rw [Source.pointIn.eq_3 _ _ _ _ (List.cons_ne_nil l ls)]
      split
      case isTrue hk =>
        obtain ⟨hcount, hlast⟩ := hwithin k
        rw [List.take_append_of_le_length hk, hcount, hlast]
        exact ⟨rfl, rfl⟩
      case isFalse hk =>
        have htake : (first ++ lineFeed :: rest).take k =
            first ++ lineFeed :: rest.take (k - (first.length + 1)) := by
          rw [List.take_append, List.take_of_length_le (by omega)]
          obtain ⟨j, hj⟩ : ∃ j, k - first.length = j + 1 := ⟨k - first.length - 1, by omega⟩
          rw [hj, List.take_succ_cons]
          congr 3
          omega
        obtain ⟨hrow, hcolumn⟩ := ih hmore.symm (row + 1) (k - (first.length + 1))
        rw [htake, lastLine_append_lineFeed, List.count_append, List.count_cons_self,
          List.count_eq_zero.mpr hfirst]
        refine ⟨by rw [hrow]; omega, ?_⟩
        rw [Nat.zero_add, List.getD_cons_succ]
        exact hcolumn

/-- **A place depends on the bytes before it.** -/
theorem place_point (data : Bytes) (k : Nat) :
    (Source.ofBytes data).place ((Source.ofBytes data).point k) = placeAfter (data.take k) := by
  obtain ⟨hrow, hcolumn⟩ := pointIn_spec (show splitAt lineFeed data = _ from rfl) 0 k
  rw [Nat.zero_add] at hrow
  unfold Source.place Source.point Source.line Source.ofBytes placeAfter
  dsimp only
  rw [hrow, hcolumn]

/-! ## Words -/

/-- Whether bytes are a text of so many characters without a line feed. -/
structure IsWord (chars : Nat) (word : Bytes) : Prop where
  isText : IsText word
  unbroken : lineFeed ∉ word
  chars : (decode word).length = chars

/-- A word makes no difference to the places behind it, but for its characters. -/
lemma placeAfter_word {chars : Nat} {old new : Bytes} (ha : IsText a) (hold : IsWord chars old)
    (hnew : IsWord chars new) (c : Bytes) :
    placeAfter (a ++ old ++ c) = placeAfter (a ++ new ++ c) := by
  have hcount : ∀ {w}, IsWord chars w →
      (a ++ w ++ c).count lineFeed = a.count lineFeed + c.count lineFeed := by
    intro w hw
    rw [List.count_append, List.count_append, List.count_eq_zero.mpr hw.unbroken, Nat.add_zero]
  have hline : (decode (lastLine (a ++ old ++ c))).length =
      (decode (lastLine (a ++ new ++ c))).length := by
    by_cases hc : lineFeed ∈ c
    · -- the last line begins behind the word
      obtain ⟨before, hsplit⟩ := exists_eq_append_lastLine hc
      rw [hsplit, ← List.append_assoc, ← List.append_assoc, lastLine_append_lineFeed,
        lastLine_append_lineFeed]
    · have hlast : ∀ {w}, IsWord chars w → (decode (lastLine (a ++ w ++ c))).length =
          (decode (lastLine a)).length + chars + (decode c).length := by
        intro w hw
        rw [lastLine_append_of_not_mem hc, lastLine_append_of_not_mem hw.unbroken,
          List.append_assoc, (isText_lastLine ha).decode_append, hw.isText.decode_append,
          List.length_append, List.length_append, hw.chars, Nat.add_assoc]
      rw [hlast hold, hlast hnew]
  rw [placeAfter, placeAfter, hcount hold, hcount hnew, hline]

/-! ## Overwriting one word -/

/-- The bytes with new ones in place of those from an offset on. -/
def overwrite (new data : Bytes) (i : Nat) : Bytes :=
  data.take i ++ new ++ data.drop (i + new.length)

/-- Whether a word of so many bytes and characters stands at an offset, and no character is cut. -/
structure WordAt (bytes chars : Nat) (data : Bytes) (i : Nat) : Prop where
  start : IsBoundary data i
  stop : IsBoundary data (i + bytes)
  isWord : IsWord chars (between data i (i + bytes))

/-- Whether two offsets are those of the same word, or of words that do not overlap. -/
def Apart (bytes i j : Nat) : Prop := i = j ∨ i + bytes ≤ j ∨ j + bytes ≤ i

/-- Whether an offset does not lie inside the word at another offset. -/
def Outside (bytes i k : Nat) : Prop := k ≤ i ∨ i + bytes ≤ k

section word

variable {new : Bytes} {i j k p q chars : Nat}

/-- The text around a word. -/
lemma WordAt.split (h : WordAt new.length chars data i) :
    ∃ a old c, data = a ++ old ++ c ∧ a.length = i ∧ old.length = new.length ∧
      between data i (i + new.length) = old ∧ overwrite new data i = a ++ new ++ c := by
  have hlength := h.stop.le
  refine ⟨data.take i, between data i (i + new.length), data.drop (i + new.length), ?_, ?_, ?_, rfl,
    rfl⟩
  · rw [between, Nat.add_sub_cancel_left, ← List.drop_drop, List.append_assoc, List.take_append_drop,
      List.take_append_drop]
  · rw [List.length_take]
    omega
  · rw [between, List.length_take, List.length_drop]
    omega

/-- Overwriting a word leaves the length as it is. -/
lemma length_overwrite (h : WordAt new.length chars data i) :
    (overwrite new data i).length = data.length := by
  obtain ⟨a, old, c, hdata, -, hold, -, hnew⟩ := h.split
  rw [hnew, hdata]
  simp only [List.length_append, hold]

/-- Overwriting leaves other bytes as they are. -/
lemma getElem?_overwrite (h : WordAt new.length chars data i) (hk : k < i ∨ i + new.length ≤ k) :
    (overwrite new data i)[k]? = data[k]? := by
  obtain ⟨a, old, c, hdata, rfl, hold, -, hnew⟩ := h.split
  rw [hnew, hdata]
  obtain hk | hk := hk
  · rw [List.append_assoc, List.append_assoc, List.getElem?_append_left hk,
      List.getElem?_append_left hk]
  · rw [List.getElem?_append_right (by rwa [List.length_append]),
      List.getElem?_append_right (by rwa [List.length_append, hold]), List.length_append,
      List.length_append, hold]

/-- Where the word was, the new one stands. -/
lemma between_overwrite_self (h : WordAt new.length chars data i) :
    between (overwrite new data i) i (i + new.length) = new := by
  obtain ⟨a, old, c, -, rfl, -, -, hnew⟩ := h.split
  rw [hnew, between, List.append_assoc, List.drop_left, Nat.add_sub_cancel_left, List.take_left]

/-- Overwriting leaves other stretches as they are. -/
lemma between_overwrite (h : WordAt new.length chars data i) (hpq : q ≤ i ∨ i + new.length ≤ p) :
    between (overwrite new data i) p q = between data p q := by
  refine List.ext_getElem? fun k => ?_
  rw [between, between, List.getElem?_take, List.getElem?_take, List.getElem?_drop,
    List.getElem?_drop]
  split
  · exact getElem?_overwrite h (by omega)
  · rfl

/-- Overwriting a word in a text gives a text. -/
lemma isText_overwrite (h : WordAt new.length chars data i) (hdata : IsText data)
    (hnew : IsText new) : IsText (overwrite new data i) :=
  ((hdata.take h.start).append hnew).append (hdata.drop h.stop)

/-- Outside of the word, boundaries stay boundaries. -/
lemma isBoundary_overwrite (h : WordAt new.length chars data i) (hdata : IsText data)
    (hnew : IsText new) (hk : Outside new.length i k) (hboundary : IsBoundary data k) :
    IsBoundary (overwrite new data i) k := by
  obtain rfl | hki := eq_or_ne k i
  · have hlength : (data.take k).length = k := by
      rw [List.length_take, Nat.min_eq_left h.start.le]
    have hsplit := isBoundary_length (a := data.take k) (hnew.append (hdata.drop h.stop))
    rwa [hlength, ← List.append_assoc] at hsplit
  · have hsame := getElem?_overwrite h (show k < i ∨ _ by unfold Outside at hk; omega)
    rwa [IsBoundary, hsame, length_overwrite h]

/-- Overwriting moves no place outside the word. -/
lemma placeAfter_take_overwrite (h : WordAt new.length chars data i) (hdata : IsText data)
    (hnew : IsWord chars new) (hk : Outside new.length i k) :
    placeAfter ((overwrite new data i).take k) = placeAfter (data.take k) := by
  have htext := hdata.take h.start
  obtain ⟨a, old, c, hsplit, rfl, hold, hbetween, hover⟩ := h.split
  have ha : data.take a.length = a := by rw [hsplit, List.append_assoc, List.take_left]
  rw [ha] at htext
  rw [hover, hsplit]
  obtain hk | hk := hk
  · rw [List.append_assoc, List.append_assoc, List.take_append_of_le_length hk,
      List.take_append_of_le_length hk]
  · have htake : ∀ w : Bytes, w.length = new.length → (a ++ w ++ c).take k =
        a ++ w ++ c.take (k - (a.length + new.length)) := by
      intro w hw
      rw [List.take_append, List.length_append, hw,
        List.take_of_length_le (by rwa [List.length_append, hw])]
    rw [htake new rfl, htake old hold]
    exact placeAfter_word htext hnew (hbetween ▸ h.isWord) _

/-- After overwriting, other words are still words. -/
lemma WordAt.overwrite (hj : WordAt new.length chars data j) (hi : WordAt new.length chars data i)
    (hdata : IsText data) (hnew : IsWord chars new) (hapart : Apart new.length i j) :
    WordAt new.length chars (Syntax.overwrite new data i) j := by
  obtain ⟨hstart, hstop⟩ : Outside new.length i j ∧ Outside new.length i (j + new.length) := by
    unfold Apart at hapart
    unfold Outside
    omega
  refine ⟨isBoundary_overwrite hi hdata hnew.isText hstart hj.start,
    isBoundary_overwrite hi hdata hnew.isText hstop hj.stop, ?_⟩
  obtain rfl | hapart := hapart
  · rw [between_overwrite_self hi]
    exact hnew
  · rw [between_overwrite hi hapart.symm]
    exact hj.isWord

end word

/-! ## Overwriting several words -/

/-- The bytes with new ones in place of those from each of several offsets on. -/
def overwriteAll (new data : Bytes) (offsets : List Nat) : Bytes :=
  offsets.foldl (overwrite new) data

/-- What overwriting words makes of a text. -/
structure Overwritten (new data data' : Bytes) (offsets : List Nat) : Prop where
  /-- The new word stands at each of the offsets. -/
  word : ∀ i ∈ offsets, between data' i (i + new.length) = new
  /-- Other stretches are as before. -/
  other : ∀ p q, (∀ i ∈ offsets, q ≤ i ∨ i + new.length ≤ p) → between data' p q = between data p q
  /-- Places outside the words are where they were. -/
  place : ∀ k, (∀ i ∈ offsets, Outside new.length i k) →
    (Source.ofBytes data').place ((Source.ofBytes data').point k) =
      (Source.ofBytes data).place ((Source.ofBytes data).point k)

/-- **Overwriting words** that do not overlap. -/
theorem overwritten_overwriteAll {new : Bytes} {chars : Nat} {offsets : List Nat} (hdata : IsText data)
    (hnew : IsWord chars new) (hwords : ∀ i ∈ offsets, WordAt new.length chars data i)
    (hapart : ∀ i ∈ offsets, ∀ j ∈ offsets, Apart new.length i j) :
    Overwritten new data (overwriteAll new data offsets) offsets := by
  induction offsets generalizing data with
  | nil => exact ⟨List.forall_mem_nil _, fun _ _ _ => rfl, fun _ _ => rfl⟩
  | cons i offsets ih =>
    obtain ⟨hi, hrest⟩ := List.forall_mem_cons.mp hwords
    obtain ⟨hapartFirst, hapartRest⟩ := List.forall_mem_cons.mp hapart
    have hfirst : ∀ j ∈ offsets, Apart new.length i j :=
      fun j hj => hapartFirst j (List.mem_cons_of_mem i hj)
    obtain ⟨hword, hother, hplace⟩ := ih (isText_overwrite hi hdata hnew.isText)
      (fun j hj => (hrest j hj).overwrite hi hdata hnew (hfirst j hj))
      (fun j hj k hk => hapartRest j hj k (List.mem_cons_of_mem i hk))
    refine ⟨List.forall_mem_cons.mpr ⟨?_, hword⟩, fun p q hpq => ?_, fun k hk => ?_⟩
    · by_cases hmem : i ∈ offsets
      · exact hword i hmem
      · -- no later word touches the first one
        refine (hother i (i + new.length) fun j hj => ?_).trans (between_overwrite_self hi)
        obtain rfl | hij := hfirst j hj
        · exact absurd hj hmem
        · exact hij
    · obtain ⟨hpqFirst, hpqRest⟩ := List.forall_mem_cons.mp hpq
      exact (hother p q hpqRest).trans (between_overwrite hi hpqFirst)
    · obtain ⟨hkFirst, hkRest⟩ := List.forall_mem_cons.mp hk
      refine (hplace k hkRest).trans ?_
      rw [place_point, place_point]
      exact placeAfter_take_overwrite hi hdata hnew hkFirst

end Diagnosis.Syntax
