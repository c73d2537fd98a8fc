import Diagnosis.Text.Search
import Mathlib.Data.List.Infix

/-!
# What is found and replaced

`occurs_iff`: searching finds what there is to find. The first and the last place of an item are found by what
does not stand before and behind them (`indexOf?_append_cons`, `lastIndexOf?_append_cons`).

`not_infix_replaceAll`: a part that is replaced everywhere is gone, provided that what comes in is
bracketed by two items that the part does not have, and does not hold the part between them. The brackets
keep the part from coming about anew where two pieces meet.
-/

namespace Diagnosis.Text

variable {α : Type} {part s : List α}

/-! ## Parts of a text -/

/-- Where an item stands that one of two texts has at its end for the first time. -/
lemma append_cons_eq_append_cons {x : α} {a b c d : List α} (hx : x ∉ a)
    (h : a ++ x :: b = c ++ x :: d) : (c = a ∧ d = b) ∨ ∃ e, c = a ++ x :: e ∧ b = e ++ x :: d := by
  rcases List.append_eq_append_iff.mp h with ⟨e, rfl, he⟩ | ⟨e, rfl, he⟩
  · cases e with
    | nil =>
      obtain rfl := (List.cons.inj he).2
      exact .inl ⟨List.append_nil a, rfl⟩
    | cons y e =>
      obtain ⟨rfl, rfl⟩ := List.cons.inj he
      exact .inr ⟨e, rfl, rfl⟩
  · cases e with
    | nil =>
      obtain rfl := (List.cons.inj he).2
      exact .inl ⟨(List.append_nil c).symm, rfl⟩
    | cons y e =>
      obtain ⟨rfl, -⟩ := List.cons.inj he
      exact absurd (List.mem_append_right c List.mem_cons_self) hx

/-- Where a separator stands behind which there is no other one. -/
lemma append_cons_inj_of_not_mem {x : α} {a b c d : List α} (hb : x ∉ b) (hd : x ∉ d) :
    a ++ x :: b = c ++ x :: d ↔ a = c ∧ b = d := by
  constructor
  · intro h
    rcases List.append_eq_append_iff.mp h with ⟨e, rfl, he⟩ | ⟨e, rfl, he⟩
    · cases e with
      | nil => exact ⟨(List.append_nil a).symm, (List.cons.inj he).2⟩
      | cons y e => exact absurd ((List.cons.inj he).2 ▸ List.mem_append_right e List.mem_cons_self) hb
    · cases e with
      | nil => exact ⟨List.append_nil c, (List.cons.inj he).2.symm⟩
      | cons y e => exact absurd ((List.cons.inj he).2 ▸ List.mem_append_right e List.mem_cons_self) hd
  · rintro ⟨rfl, rfl⟩
    rfl

/-- What ends a text that ends with a word, ends with the same word. -/
lemma append_cons_suffix_iff {x : α} {front back front' back' : List α} (hback : x ∉ back)
    (hback' : x ∉ back') :
    front ++ x :: back <:+ front' ++ x :: back' ↔ front <:+ front' ∧ back = back' := by
  constructor
  · rintro ⟨t, h⟩
    rw [← List.append_assoc, append_cons_inj_of_not_mem hback hback'] at h
    exact ⟨⟨t, h.1⟩, h.2⟩
  · rintro ⟨⟨t, rfl⟩, rfl⟩
    exact ⟨t, (List.append_assoc t front _).symm⟩

/-- A part of several words stands before the last word of a text, or ends inside it. -/
lemma append_cons_infix_iff {x : α} {front back front' back' : List α} (hback : x ∉ back)
    (hback' : x ∉ back') :
    front ++ x :: back <:+: front' ++ x :: back' ↔
      front ++ x :: back <:+: front' ∨ front <:+ front' ∧ back <+: back' := by
  have hx : x ∈ front ++ x :: back := List.mem_append_right front List.mem_cons_self
  constructor
  · intro h
    rcases List.infix_append_iff.mp h with hin | hlast | ⟨l, r, heq, hl, hr⟩
    · exact .inl hin
    · rcases List.infix_cons_iff.mp hlast with hstart | hin
      · cases front with
        | nil => exact .inr ⟨List.nil_suffix, (List.cons_prefix_cons.mp hstart).2⟩
        | cons y front =>
          have hin := (List.cons_prefix_cons.mp hstart).2
          exact absurd (hin.mem (List.mem_append_right front List.mem_cons_self)) hback'
      · exact absurd (hin.mem hx) hback'
    · cases r with
      | nil =>
        rw [List.append_nil] at heq
        exact .inl (heq ▸ hl.isInfix)
      | cons y r =>
        obtain ⟨rfl, hrest⟩ := List.cons_prefix_cons.mp hr
        obtain ⟨rfl, rfl⟩ := (append_cons_inj_of_not_mem hback fun h => hback' (hrest.mem h)).mp heq
        exact .inr ⟨hl, hrest⟩
  · rintro (h | ⟨⟨t, rfl⟩, ⟨r, rfl⟩⟩)
    · exact h.trans (List.prefix_append front' _).isInfix
    · exact ⟨t, r, by simp⟩

/-- A part without a certain item lies on one side of the item. -/
lemma infix_or_infix_of_append_cons {x : α} {a b : List α} (hx : x ∉ part)
    (h : part <:+: a ++ x :: b) : part <:+: a ∨ part <:+: b := by
  rcases List.infix_append_iff.mp h with ha | hb | ⟨front, back, rfl, hfront, hback⟩
  · exact .inl ha
  · rcases List.infix_cons_iff.mp hb with hstart | hb
    · rcases List.prefix_cons_iff.mp hstart with rfl | ⟨t, rfl, -⟩
      · exact .inl List.nil_infix
      · exact absurd List.mem_cons_self hx
    · exact .inr hb
  · rcases List.prefix_cons_iff.mp hback with rfl | ⟨t, rfl, -⟩
    · rw [List.append_nil]
      exact .inl hfront.isInfix
    · exact absurd (List.mem_append_right _ List.mem_cons_self) hx

/-- A part that ends in an item does not reach into a text without the item. -/
lemma infix_of_infix_append {x : α} {a b : List α} (hx : x ∉ b)
    (h : part ++ [x] <:+: a ++ b) : part ++ [x] <:+: a := by
  rcases List.infix_append_iff.mp h with ha | hb | ⟨front, back, heq, hfront, hback⟩
  · exact ha
  · exact absurd (hb.mem (List.mem_append_right _ (List.mem_singleton_self x))) hx
  · rcases List.eq_nil_or_concat' back with rfl | ⟨back, y, rfl⟩
    · rw [heq, List.append_nil]
      exact hfront.isInfix
    · rw [← List.append_assoc] at heq
      obtain ⟨-, hy⟩ := List.append_inj' heq rfl
      obtain rfl := List.singleton_inj.mp hy
      exact absurd (hback.mem (List.mem_append_right _ (List.mem_singleton_self x))) hx

/-- A part no end of which is a beginning of it as well, except for the whole, does not begin in front of itself
unless it ends there, too. -/
lemma prefix_of_prefix_append_self {front back : List α}
    (hends : ∀ x ∈ part.tails, x ≠ [] → x <+: part → x = part) (hfront : front ≠ [])
    (h : part <+: front ++ (part ++ back)) : part <+: front := by
  obtain ⟨tail, heq⟩ := h
  rcases List.append_eq_append_iff.mp heq with ⟨x, rfl, -⟩ | ⟨x, hpart, hx⟩
  · exact List.prefix_append part x
  · by_cases hnil : x = []
    · rw [hpart, hnil, List.append_nil]
    · have hlength : x.length ≤ part.length := by
        rw [hpart, List.length_append]
        exact Nat.le_add_left _ _
      have hbegins : x <+: part :=
        List.prefix_of_prefix_length_le ⟨tail, hx.symm⟩ (List.prefix_append part back) hlength
      have hwhole := hends x ((List.mem_tails _ _).mpr ⟨front, hpart.symm⟩) hnil hbegins
      rw [hwhole] at hpart
      exact absurd (List.append_left_eq_self.mp hpart.symm) hfront

variable [BEq α]

/-- A part occurs in a text if the text has it somewhere. -/
lemma occurs_iff [LawfulBEq α] : occurs part s = true ↔ part <:+: s := by
  induction s with
  | nil => rw [occurs, List.isEmpty_iff, List.infix_nil]
  | cons c rest ih =>
    rw [occurs, Bool.or_eq_true, List.isPrefixOf_iff_prefix, ih, List.infix_cons_iff]

/-- An item is found for the first time where it does not stand before. -/
lemma indexOf?_append_cons [LawfulBEq α] {x : α} {front : List α} (h : x ∉ front) (back : List α) :
    indexOf? x (front ++ x :: back) = some front.length := by
  have hnone : front.findIdx? (· == x) = none := by
    rw [List.findIdx?_eq_none_iff]
    exact fun y hy => beq_eq_false_iff_ne.mpr (ne_of_mem_of_not_mem hy h)
  rw [indexOf?, List.findIdx?_append, hnone, List.findIdx?_cons, if_pos (beq_self_eq_true x)]
  simp

/-- An item is found for the last time where it does not stand behind. -/
lemma lastIndexOf?_append_cons [LawfulBEq α] {x : α} {back : List α} (h : x ∉ back) (front : List α) :
    lastIndexOf? x (front ++ x :: back) = some front.length := by
  have hreverse : (front ++ x :: back).reverse = back.reverse ++ x :: front.reverse := by simp
  have hlength : (front ++ x :: back).length - 1 - back.reverse.length = front.length := by
    simp only [List.length_append, List.length_cons, List.length_reverse]
    omega
  have hfound := indexOf?_append_cons (mt List.mem_reverse.mp h) front.reverse
  rw [indexOf?] at hfound
  rw [lastIndexOf?, hreverse, hfound, Option.map_some, hlength]

/-! ## Replacing -/

variable {old new : List α}

/-- Items that belong to an occurrence are passed over. -/
lemma replaceFrom_eq_drop (skip : Nat) (s : List α) :
    replaceFrom old new skip s = replaceAll old new (s.drop skip) := by
  induction s generalizing skip with
  | nil => cases skip <;> rfl
  | cons c rest ih =>
    cases skip with
    | zero => rfl
    | succ skip => exact ih skip

variable [LawfulBEq α]

/-- What is searched is replaced where it stands. -/
lemma replaceAll_of_isPrefix {c : α} {rest : List α} (h : old <+: c :: rest) :
    replaceAll old new (c :: rest) = new ++ replaceAll old new (rest.drop (old.length - 1)) := by
  rw [← replaceFrom_eq_drop, replaceAll, replaceFrom, if_pos (List.isPrefixOf_iff_prefix.mpr h)]

/-- Where something else stands, a character is kept. -/
lemma replaceAll_of_not_isPrefix {c : α} {rest : List α} (h : ¬ old <+: c :: rest) :
    replaceAll old new (c :: rest) = c :: replaceAll old new rest := by
  rw [replaceAll, replaceFrom, if_neg fun hp => h (List.isPrefixOf_iff_prefix.mp hp), replaceAll]

variable {opening closing : α} {inner : List α}

/-- What a text begins with after replacing, it began with before, unless it has the opening bracket. -/
lemma prefix_of_prefix_replaceAll (hopening : opening ∉ part)
    (h : part <+: replaceAll old (opening :: inner) s) : part <+: s := by
  induction s generalizing part with
  | nil => exact h
  | cons c rest ih =>
    by_cases hold : old <+: c :: rest
    · rw [replaceAll_of_isPrefix hold, List.cons_append] at h
      rcases List.prefix_cons_iff.mp h with rfl | ⟨t, rfl, -⟩
      · exact List.nil_prefix
      · exact absurd List.mem_cons_self hopening
    · rw [replaceAll_of_not_isPrefix hold] at h
      rcases List.prefix_cons_iff.mp h with rfl | ⟨t, rfl, ht⟩
      · exact List.nil_prefix
      · rw [List.mem_cons, not_or] at hopening
        exact List.cons_prefix_cons.mpr ⟨rfl, ih hopening.2 ht⟩

/-- **A part that is replaced everywhere is gone.** -/
theorem not_infix_replaceAll (hold : old ≠ []) (hopening : opening ∉ old) (hclosing : closing ∉ old)
    (hinner : ¬ old <:+: inner) (s : List α) :
    ¬ old <:+: replaceAll old (opening :: (inner ++ [closing])) s := by
  induction hn : s.length using Nat.strong_induction_on generalizing s with
  | _ n ih =>
    subst hn
    intro h
    cases s with
    | nil => exact hold (List.infix_nil.mp h)
    | cons c rest =>
      by_cases hstart : old <+: c :: rest
      · rw [replaceAll_of_isPrefix hstart, List.cons_append, List.append_assoc, List.singleton_append] at h
        -- the part lies before, between or behind the brackets
        rcases infix_or_infix_of_append_cons (a := []) hopening h with hbefore | h
        · exact hold (List.infix_nil.mp hbefore)
        · rcases infix_or_infix_of_append_cons hclosing h with hbetween | hbehind
          · exact hinner hbetween
          · refine ih _ ?_ (rest.drop (old.length - 1)) rfl hbehind
            rw [List.length_drop, List.length_cons]
            omega
      · have hrest : replaceAll old (opening :: (inner ++ [closing])) (c :: rest) =
            c :: replaceAll old (opening :: (inner ++ [closing])) rest := replaceAll_of_not_isPrefix hstart
        rcases List.infix_cons_iff.mp (hrest ▸ h) with hp | htail
        · exact hstart (prefix_of_prefix_replaceAll hopening (hrest ▸ hp))
        · exact ih _ (Nat.lt_add_one _) rest rfl htail

end Diagnosis.Text
