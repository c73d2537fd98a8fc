import Diagnosis.Text.Blank
import Mathlib.Data.List.DropRight
import Mathlib.Data.List.TakeWhile

/-!
# Blanks and words

What is cut off the ends of a text, and which words a text is split into, said without the scans that
find it.

* `takeWhile_dropWhile_append`: what is cut off the front ends where the kind of its items does.
* `length_dropEndWhile_le`: what is kept of a text does not reach into an end that is cut off.
* **First words** (`head?_words_eq_some_iff`): the first word of a text is the run of characters between
  the blanks in front and the next blank.
-/

namespace Diagnosis.Text

/-! ## What is cut off -/

section cut

variable {α : Type} {p : α → Bool}

/-- What is taken off the front of a text ends where the kind of its items does. -/
lemma takeWhile_dropWhile_append {front back : List α} (hfront : ∀ x ∈ front, p x = true)
    (hback : ∀ x ∈ back.head?, p x = false) :
    (front ++ back).takeWhile p = front ∧ (front ++ back).dropWhile p = back := by
  rw [List.takeWhile_append_of_pos hfront, List.dropWhile_append_of_pos hfront]
  cases back with
  | nil => simp
  | cons x back =>
    have hx : ¬ p x = true := Bool.eq_false_iff.mp (hback x rfl)
    rw [List.takeWhile_cons_of_neg hx, List.dropWhile_cons_of_neg hx, List.append_nil]
    exact ⟨rfl, rfl⟩

/-- What is dropped at the end is all of the kind. -/
lemma exists_append_dropEndWhile (p : α → Bool) (xs : List α) :
    ∃ tail, xs = dropEndWhile p xs ++ tail ∧ ∀ x ∈ tail, p x = true :=
  ⟨xs.rtakeWhile p, List.rdropWhile_append_rtakeWhile.symm, fun _ => List.mem_rtakeWhile_imp⟩

/-- What is left is how the list begins. -/
lemma dropEndWhile_isPrefix (p : α → Bool) (xs : List α) : dropEndWhile p xs <+: xs := by
  obtain ⟨tail, hxs, -⟩ := exists_append_dropEndWhile p xs
  exact ⟨tail, hxs.symm⟩

/-- An end is cut off as a whole. -/
lemma dropEndWhile_append {front back : List α} (h : ∀ x ∈ back, p x = true) :
    dropEndWhile p (front ++ back) = dropEndWhile p front := by
  rw [dropEndWhile, dropEndWhile, List.reverse_append,
    List.dropWhile_append_of_pos fun x hx => h x (List.mem_reverse.mp hx)]

/-- An end that is cut off as a whole leaves at most what stands before it. -/
lemma length_dropEndWhile_le {xs : List α} {n : Nat} (h : ∀ x ∈ xs.drop n, p x = true) :
    (dropEndWhile p xs).length ≤ n := by
  rw [← List.take_append_drop n xs, dropEndWhile_append h]
  exact (dropEndWhile_isPrefix p _).length_le.trans (List.length_take_le _ _)

end cut

/-! ## Words -/

section words

variable {s w front : List Char} {ws : List (List Char)}

/-- Whether a word is the first one of a text: blanks stand in front of it, if anything, and a blank
behind it, unless the text ends there. -/
def IsFirstWord (s w : List Char) : Prop :=
  ∃ before after, s = before ++ w ++ after ∧ (∀ c ∈ before, isBlank c = true) ∧
    w ≠ [] ∧ (∀ c ∈ w, isBlank c = false) ∧ ∀ c ∈ after.head?, isBlank c = true

/-- A word that is not empty is added. -/
lemma consWord_of_ne_nil (h : w ≠ []) : consWord w ws = w :: ws := by
  rw [consWord, if_neg (by simpa using h)]

/-- A blank ends the word. -/
lemma splitWords_cons_of_isBlank {c : Char} (hc : isBlank c = true) :
    splitWords (c :: s) = ([], words s) := by
  simp only [splitWords, hc, if_true]
  rfl

/-- Any other character belongs to the word. -/
lemma splitWords_cons_of_not_isBlank {c : Char} (hc : isBlank c = false) :
    splitWords (c :: s) = (c :: (splitWords s).1, (splitWords s).2) := by
  simp only [splitWords, hc, Bool.false_eq_true, if_false]

/-- Blanks in front of a text make no difference to its words. -/
lemma words_cons_of_isBlank {c : Char} (hc : isBlank c = true) : words (c :: s) = words s := by
  rw [words, splitWords_cons_of_isBlank hc]
  rfl

/-- Blanks before a text add no words. -/
lemma words_append_of_isBlank (h : ∀ c ∈ front, isBlank c = true) : words (front ++ s) = words s := by
  induction front with
  | nil => rfl
  | cons c front ih =>
    obtain ⟨hc, hfront⟩ := List.forall_mem_cons.mp h
    rw [List.cons_append, words_cons_of_isBlank hc, ih hfront]

/-- The word at the front is what stands before the first blank. -/
lemma splitWords_fst (s : List Char) : (splitWords s).1 = s.takeWhile (!isBlank ·) := by
  induction s with
  | nil => rfl
  | cons c rest ih =>
    cases hc : isBlank c with
    | true => rw [splitWords_cons_of_isBlank hc, List.takeWhile_cons_of_neg (by simp [hc])]
    | false =>
      rw [splitWords_cons_of_not_isBlank hc, List.takeWhile_cons_of_pos (by simp [hc]), ← ih]

/-- A text that does not begin with a blank begins with a word. -/
lemma head?_words_of_not_isBlank {c : Char} (hc : isBlank c = false) :
    (words (c :: s)).head? = some ((c :: s).takeWhile (!isBlank ·)) := by
  rw [← splitWords_fst, words, splitWords_cons_of_not_isBlank hc]
  exact congrArg List.head? (consWord_of_ne_nil (List.cons_ne_nil _ _))

/-- The first word of a text. -/
theorem head?_words_eq_some_iff : (words s).head? = some w ↔ IsFirstWord s w := by
  constructor
  · intro h
    induction s with
    | nil => cases h
    | cons c rest ih =>
      cases hc : isBlank c with
      | true =>
        rw [words_cons_of_isBlank hc] at h
        obtain ⟨before, after, rfl, hbefore, hw⟩ := ih h
        exact ⟨c :: before, after, rfl, List.forall_mem_cons.mpr ⟨hc, hbefore⟩, hw⟩
      | false =>
        rw [head?_words_of_not_isBlank hc, Option.some.injEq] at h
        have hne : (c :: rest).takeWhile (!isBlank ·) ≠ [] := by
          rw [List.takeWhile_cons_of_pos (by simp [hc])]
          exact List.cons_ne_nil _ _
        subst h
        refine ⟨[], (c :: rest).dropWhile (!isBlank ·), ?_, nofun, hne, fun d hd => ?_, fun d hd => ?_⟩
        · rw [List.nil_append, List.takeWhile_append_dropWhile]
        · simpa using List.mem_takeWhile_imp hd
        · have hlast := List.head?_dropWhile_not (!isBlank ·) (c :: rest)
          rw [Option.mem_def.mp hd] at hlast
          simpa using hlast
  · rintro ⟨before, after, rfl, hbefore, hne, hw, hafter⟩
    obtain ⟨c, w, rfl⟩ := List.exists_cons_of_ne_nil hne
    rw [List.append_assoc, words_append_of_isBlank hbefore, List.cons_append,
      head?_words_of_not_isBlank (hw c List.mem_cons_self), ← List.cons_append]
    refine congrArg some (takeWhile_dropWhile_append (fun d hd => ?_) fun d hd => ?_).1
    · rw [hw d hd]
      rfl
    · rw [hafter d hd]
      rfl

end words

end Diagnosis.Text
