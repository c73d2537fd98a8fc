import Diagnosis.Proofs.Text.Blank
import Diagnosis.Proofs.Text.Numeral
import Diagnosis.Secret.Hygiene

/-!
# What is left of the output of tools

`sanitize` leaves a text alone that has no colours and control characters (`sanitize_eq_self`). Colour
sequences go without a trace: what is left without them is the text between which they were put, and no other
(`stripColours_eq_iff`). So what stood on the sides of one stands together (`sanitize_append_reset`). None
reaches across a colon, so what stands before one and what stands behind it can be looked at apart
(`sanitize_append_colon`).
-/

namespace Diagnosis.Secret

open Diagnosis.Text

variable {s front back plain rest tail : List Char} {c : Char}

/-! ## Colour sequences -/

/-- Whether a text is another one with colour sequences put in, any number of them at any places. -/
inductive Coloured : List Char → List Char → Prop
  | nil : Coloured [] []
  | char {plain s : List Char} (c : Char) (h : Coloured plain s) : Coloured (c :: plain) (c :: s)
  | colour {plain s parameters : List Char} {ending : Char}
      (isParameters : ∀ c ∈ parameters, isColourParameter c = true)
      (isEnding : ending = 'm' ∨ ending = 'K') (h : Coloured plain s) :
      Coloured plain (escapeChar :: '[' :: (parameters ++ ending :: s))

/-- Parameters go on up to the letter that ends a colour sequence, so a sequence is taken whole and what comes
behind it is left, whatever that is. -/
lemma afterColour?_eq_some_iff :
    afterColour? s = some tail ↔ ∃ parameters ending, s = '[' :: (parameters ++ ending :: tail) ∧
      (∀ c ∈ parameters, isColourParameter c = true) ∧ (ending = 'm' ∨ ending = 'K') := by
  constructor
  · intro h
    unfold afterColour? at h
    split at h
    case h_1 rest =>
      split at h
      case h_1 ending tail' hdrop =>
        obtain ⟨hending, htail⟩ := Option.ite_none_right_eq_some.mp h
        obtain rfl := Option.some.inj htail
        refine ⟨rest.takeWhile isColourParameter, ending, ?_, fun c => List.mem_takeWhile_imp, hending⟩
        rw [← hdrop, List.takeWhile_append_dropWhile]
      case h_2 => exact absurd h nofun
    case h_2 => exact absurd h nofun
  · rintro ⟨parameters, ending, rfl, hparameters, hending⟩
    have hstop : ∀ c ∈ (ending :: tail).head?, isColourParameter c = false := by
      intro c hc
      obtain rfl := Option.some.inj hc
      rcases hending with rfl | rfl <;> decide
    rw [afterColour?, (takeWhile_dropWhile_append hparameters hstop).2]
    exact if_pos hending

/-- Any character but an escape character is kept. -/
lemma stripColours_of_ne (hc : c ≠ escapeChar) : stripColours (c :: rest) = c :: stripColours rest := by
  rw [stripColours, if_neg hc]

/-- A colour sequence is taken out. -/
lemma stripColours_of_some (h : afterColour? rest = some tail) :
    stripColours (escapeChar :: rest) = stripColours tail := by
  rw [stripColours, if_pos rfl]
  split
  case h_1 left hleft =>
    obtain rfl := Option.some.inj (h.symm.trans hleft)
    rfl
  case h_2 hnone => exact absurd (h.symm.trans hnone) (Option.some_ne_none tail)

/-- An escape character that begins no colour sequence is kept. -/
lemma stripColours_of_none (h : afterColour? rest = none) :
    stripColours (escapeChar :: rest) = escapeChar :: stripColours rest := by
  rw [stripColours, if_pos rfl]
  split
  case h_1 left hleft => exact absurd (hleft.symm.trans h) (Option.some_ne_none left)
  case h_2 => rfl

/-- **Colours go without a trace.** A text without an escape character is what is left of those texts that are
made of it by putting colour sequences in, and of no others. -/
theorem stripColours_eq_iff (hplain : escapeChar ∉ plain) :
    stripColours s = plain ↔ Coloured plain s := by
  constructor
  · intro h
    fun_induction stripColours s generalizing plain with
    | case1 => exact h ▸ .nil
    | case2 rest tail hafter ih =>
      obtain ⟨parameters, ending, rfl, hparameters, hending⟩ := afterColour?_eq_some_iff.mp hafter
      exact .colour hparameters hending (ih hplain h)
    | case3 rest hafter ih =>
      -- an escape character that begins no sequence would have been left
      exact absurd (h ▸ List.mem_cons_self) hplain
    | case4 c rest hc ih =>
      subst h
      exact .char c (ih (fun hmem => hplain (List.mem_cons_of_mem c hmem)) rfl)
  · intro h
    induction h with
    | nil => rw [stripColours]
    | char c _ ih =>
      rw [List.mem_cons, not_or] at hplain
      rw [stripColours_of_ne (Ne.symm hplain.1), ih hplain.2]
    | colour isParameters isEnding _ ih =>
      rw [stripColours_of_some (afterColour?_eq_some_iff.mpr ⟨_, _, rfl, isParameters, isEnding⟩), ih hplain]

/-- Characters in front of the first escape character stay. -/
lemma stripColours_append (h : escapeChar ∉ front) (back : List Char) :
    stripColours (front ++ back) = front ++ stripColours back := by
  induction front with
  | nil => rfl
  | cons c front ih =>
    rw [List.mem_cons, not_or] at h
    rw [List.cons_append, stripColours_of_ne (Ne.symm h.1), ih h.2, List.cons_append]

/-! ## Colons -/

/-- No colour sequence goes on behind a colon. -/
lemma afterColour?_append_colon (front back : List Char) :
    afterColour? (front ++ ':' :: back) = (afterColour? front).map (· ++ ':' :: back) := by
  cases front with
  | nil => rfl
  | cons c front =>
    by_cases hc : c = '['
    · subst hc
      rw [List.cons_append, afterColour?, afterColour?, List.dropWhile_append]
      cases front.dropWhile isColourParameter with
      | nil => rfl
      | cons d tail =>
        simp only [List.isEmpty_cons, Bool.false_eq_true, if_false, List.cons_append]
        split_ifs <;> rfl
    · rw [List.cons_append, afterColour?.eq_2 _ fun rest h => hc (List.cons.inj h).1,
        afterColour?.eq_2 _ fun rest h => hc (List.cons.inj h).1]
      rfl

/-- A colon keeps apart what stands before it and behind it, for colour sequences hold none. -/
lemma stripColours_append_colon (front back : List Char) :
    stripColours (front ++ ':' :: back) = stripColours front ++ ':' :: stripColours back := by
  fun_induction stripColours front with
  | case1 => rw [List.nil_append, stripColours_of_ne (by decide), List.nil_append]
  | case2 rest tail hafter ih =>
    have hmoved : afterColour? (rest ++ ':' :: back) = some (tail ++ ':' :: back) := by
      rw [afterColour?_append_colon, hafter, Option.map_some]
    rw [List.cons_append, stripColours_of_some hmoved, ih]
  | case3 rest hafter ih =>
    have hmoved : afterColour? (rest ++ ':' :: back) = none := by
      rw [afterColour?_append_colon, hafter, Option.map_none]
    rw [List.cons_append, stripColours_of_none hmoved, ih, List.cons_append]
  | case4 c rest hc ih => rw [List.cons_append, stripColours_of_ne hc, ih, List.cons_append]

/-- What stands before a colon and what stands behind it are sanitized apart. -/
lemma sanitize_append_colon (front back : List Char) :
    sanitize (front ++ ':' :: back) = sanitize front ++ ':' :: sanitize back := by
  unfold sanitize
  rw [stripColours_append_colon, List.filter_append, List.filter_cons_of_pos (by decide)]

/-! ## Sanitizing -/

/-- The escape character is a control character. -/
lemma escapeChar_not_mem (h : ∀ c ∈ s, isControl c = false) : escapeChar ∉ s := fun hmem =>
  absurd (h escapeChar hmem) (by decide)

/-- Nothing that stands in front of the first escape character is part of a colour sequence. -/
lemma sanitize_append_of_not_mem (h : escapeChar ∉ front) (back : List Char) :
    sanitize (front ++ back) = front.filter (!isControl ·) ++ sanitize back := by
  rw [sanitize, stripColours_append h, List.filter_append, sanitize]

/-- A text in front that has no control characters stays. -/
lemma sanitize_append (h : ∀ c ∈ front, isControl c = false) (back : List Char) :
    sanitize (front ++ back) = front ++ sanitize back := by
  have hself : front.filter (!isControl ·) = front := by
    rw [List.filter_eq_self]
    intro c hc
    rw [h c hc]
    rfl
  rw [sanitize_append_of_not_mem (escapeChar_not_mem h), hself]

/-- A text without control characters is left alone. -/
lemma sanitize_eq_self (h : ∀ c ∈ s, isControl c = false) : sanitize s = s := by
  have happend := sanitize_append h []
  have hnil : sanitize [] = [] := by
    rw [sanitize, stripColours]
    rfl
  rwa [hnil, List.append_nil] at happend

/-- Colours make no difference. -/
lemma sanitize_of_coloured (hplain : escapeChar ∉ plain) (h : Coloured plain s) :
    sanitize s = sanitize plain := by
  have hself : stripColours plain = plain := by
    simpa [stripColours] using stripColours_append hplain []
  rw [sanitize, sanitize, (stripColours_eq_iff hplain).mpr h, hself]

/-- What stands on the sides of a colour sequence stands together without it. -/
lemma sanitize_append_reset (hfront : ∀ c ∈ front, isControl c = false)
    (hback : ∀ c ∈ back, isControl c = false) :
    sanitize (front ++ escapeChar :: '[' :: 'm' :: back) = front ++ back := by
  have hreset : sanitize (escapeChar :: '[' :: 'm' :: back) = sanitize back := by
    rw [sanitize, stripColours_of_some rfl, sanitize]
  rw [sanitize_append hfront, hreset, sanitize_eq_self hback]

/-- Digits are no control characters. -/
lemma isControl_of_isDigit (h : isDigit c = true) : isControl c = false := by
  rw [Bool.eq_false_iff]
  intro hcontrol
  simp only [isControl, Bool.or_eq_true, Bool.and_eq_true, decide_eq_true_eq] at hcontrol
  rw [isDigit_of_ascii (by omega), Char.isDigit_iff_toNat] at h
  have hzero : '0'.toNat = 48 := rfl
  have hnine : '9'.toNat = 57 := rfl
  omega

end Diagnosis.Secret
