import Diagnosis.Proofs.Pattern.Start

/-!
# Replacing matches

`Cuts` says how a text falls into matches and the characters between them, without a place or a
count of steps: a match is a described text, and where a character is kept, no described text
begins. For an expression that describes no empty text, the pieces of a text are such a cut
(`cuts_pieces`).

A text in which the matches have been replaced is compared with the text before: what stands in it
either begins inside a replacement, or begins with kept characters that stood in the text as well,
up to the first match at least (`prefix_text_of_prefix_render`). A character that no replacement holds
has been kept, so texts can be taken apart at it (`exists_of_render_eq`).

A match is found exactly when a described text stands somewhere (`occursIn_iff`).
-/

namespace Diagnosis.Pattern.Regex

variable {r : Regex} {s : List Char} {ps : List Piece}

/-! ## Cutting -/

/-- Whether pieces are a way to cut a text at the matches of a regular expression. -/
inductive Cuts (r : Regex) : List Char → List Piece → Prop
  | nil : Cuts r [] []
  | found {x rest : List Char} {ps : List Piece} :
      r.Describes x → Cuts r rest ps → Cuts r (x ++ rest) (.found x :: ps)
  | kept {c : Char} {rest : List Char} {ps : List Piece} :
      (∀ x, x <+: c :: rest → ¬ r.Describes x) → Cuts r rest ps → Cuts r (c :: rest) (.kept c :: ps)

/-- What is matched is a stretch that the expression describes. -/
lemma exists_describes_of_matchAt? {mayBeEmpty : Bool} {s e : Spot}
    (h : r.matchAt? mayBeEmpty s = some e) : ∃ x, r.Describes x ∧ s.Reads x e :=
  exists_describes_of_mem_ends (List.mem_of_find?_eq_some h)

/-- Where nothing is matched, the expression describes nothing that begins there. -/
lemma not_describes_of_matchAt? (hlocal : r.isLocal = true) (hr : r.isNullable = false)
    {mayBeEmpty : Bool} {s : Spot} (h : r.matchAt? mayBeEmpty s = none) {x : List Char}
    (hbegins : x <+: s.rest) : ¬ r.Describes x := by
  intro hx
  obtain ⟨e, he, hreads⟩ := exists_mem_ends hlocal hx hbegins
  obtain ⟨c, rest, rfl⟩ := hx.exists_eq_cons hr
  have hno := List.find?_eq_none.mp h e he
  rw [Bool.or_eq_true, decide_eq_true_iff, hreads.lt_iff] at hno
  exact hno (.inr (List.cons_ne_nil _ _))

/-- The pieces cut the text into what is found and what is kept. -/
lemma cuts_piecesFrom (hlocal : r.isLocal = true) (hr : r.isNullable = false) {fuel : Nat}
    {mayBeEmpty : Bool} {s : Spot} (hfuel : s.rest.length < fuel) :
    Cuts r s.rest (r.piecesFrom fuel mayBeEmpty s) := by
  induction fuel generalizing mayBeEmpty s with
  | zero => exact absurd hfuel (Nat.not_lt_zero _)
  | succ fuel ih =>
    rw [piecesFrom]
    cases he : r.matchAt? mayBeEmpty s with
    | some e =>
      obtain ⟨x, hx, hreads⟩ := exists_describes_of_matchAt? he
      obtain ⟨c, rest, rfl⟩ := hx.exists_eq_cons hr
      have htake : s.rest.take (e.offset - s.offset) = c :: rest := by
        rw [hreads.2, Nat.add_sub_cancel_left, hreads.1, List.take_left]
      dsimp only
      rw [htake]
      rw [hreads.1] at hfuel ⊢
      rw [List.length_append, List.length_cons] at hfuel
      exact .found hx (ih (by omega))
    | none =>
      have hno := fun x => not_describes_of_matchAt? (x := x) hlocal hr he
      cases hrest : s.rest with
      | nil => exact .nil
      | cons c rest =>
        have hnext : s.next.rest = rest := by
          unfold Spot.next
          rw [hrest]
        rw [hrest] at hfuel hno
        rw [List.length_cons] at hfuel
        exact .kept hno (hnext ▸ ih (by rw [hnext]; omega))

/-- **The pieces of a text are a cut**, for an expression that describes no empty text. -/
theorem cuts_pieces (hlocal : r.isLocal = true) (hr : r.isNullable = false) (s : List Char) :
    Cuts r s (r.pieces s) :=
  cuts_piecesFrom hlocal hr (s := Spot.start s) (by unfold Spot.start; dsimp only; omega)

/-! ## Pieces and texts -/

/-- The text of a piece. -/
def Piece.text : Piece → List Char
  | kept c => [c]
  | found x => x

/-- A piece with `new` in place of a match. -/
def Piece.render (new : List Char) : Piece → List Char
  | kept c => [c]
  | found _ => new

variable {m new x : List Char}

/-- Kept characters make the text that they come from. -/
lemma flatMap_text_map_kept (s : List Char) : (s.map Piece.kept).flatMap Piece.text = s := by
  induction s with
  | nil => rfl
  | cons c s ih => simp [Piece.text, ih]

/-- Replacing puts the new text in the place of every piece that is found. -/
lemma replace_eq (r : Regex) (new s : List Char) :
    r.replace (fun _ => new) s = (r.pieces s).flatMap (Piece.render new) := by
  unfold replace
  congr 1
  funext p
  cases p <;> rfl

/-- The pieces make the text. -/
lemma Cuts.flatMap_text (h : r.Cuts s ps) : ps.flatMap Piece.text = s := by
  induction h with
  | nil => rfl
  | found _ _ ih => rw [List.flatMap_cons, ih, Piece.text]
  | kept _ _ ih => rw [List.flatMap_cons, ih, Piece.text, List.singleton_append]

/-- From a piece on, the rest of a text is cut in the same way. -/
lemma Cuts.drop {before : List Piece} (h : r.Cuts s (before ++ ps)) :
    r.Cuts (ps.flatMap Piece.text) ps := by
  induction before generalizing s with
  | nil => exact h.flatMap_text.symm ▸ h
  | cons p before ih =>
    cases h with
    | found _ hrest => exact ih hrest
    | kept _ hrest => exact ih hrest

/-- What is found is described by the expression. -/
lemma Cuts.describes_of_mem (h : r.Cuts s ps) {x : List Char} (hx : .found x ∈ ps) :
    r.Describes x := by
  obtain ⟨before, after, rfl⟩ := List.mem_iff_append.mp hx
  generalize hs : (Piece.found x :: after).flatMap Piece.text = s'
  cases hs ▸ h.drop with
  | found hx _ => exact hx

/-- Where a character is kept, no described text begins. -/
lemma Cuts.not_describes {before after : List Piece} {c : Char}
    (h : r.Cuts s (before ++ .kept c :: after)) (hm : m <+: (.kept c :: after).flatMap Piece.text) :
    ¬ r.Describes m := by
  generalize hs : (Piece.kept c :: after).flatMap Piece.text = s' at hm
  cases hs ▸ h.drop with
  | kept hno _ => exact hno m hm

/-! ## What stands in a text with replacements -/

/-- The ends of two texts in a row. -/
lemma suffix_append_cases {a b t : List Char} (h : t <:+ a ++ b) :
    t <:+ b ∨ ∃ v, v ≠ [] ∧ v <:+ a ∧ t = v ++ b := by
  obtain ⟨w, hw⟩ := h
  obtain ⟨v, ha, ht⟩ | ⟨b', -, hb⟩ := List.append_eq_append_iff.mp hw
  · by_cases hv : v = []
    · rw [ht, hv, List.nil_append]
      exact .inl List.suffix_rfl
    · exact .inr ⟨v, hv, ⟨w, ha.symm⟩, ht⟩
  · exact .inl ⟨b', hb.symm⟩

/-- What stands in a text with replacements begins inside one of them or with a kept character. -/
lemma exists_of_infix_render (hm : m ≠ []) (h : m <:+: ps.flatMap (Piece.render new)) :
    (∃ v, v ≠ [] ∧ v <:+ new ∧ ∃ z, m <+: v ++ z) ∨
      ∃ before c after, ps = before ++ .kept c :: after ∧
        m <+: (Piece.kept c :: after).flatMap (Piece.render new) := by
  induction ps with
  | nil => exact absurd (List.infix_nil.mp h) hm
  | cons p ps ih =>
    obtain hrest | hv | ⟨c, rfl, hkept⟩ : m <:+: ps.flatMap (Piece.render new) ∨
        (∃ v, v ≠ [] ∧ v <:+ new ∧ ∃ z, m <+: v ++ z) ∨
        ∃ c, p = .kept c ∧ m <+: (Piece.kept c :: ps).flatMap (Piece.render new) := by
      cases p with
      | kept c =>
        obtain h | h := List.infix_cons_iff.mp h
        · exact .inr (.inr ⟨c, rfl, h⟩)
        · exact .inl h
      | found x =>
        obtain ⟨t, hbegins, hsuffix⟩ := List.infix_iff_prefix_suffix.mp h
        obtain hrest | ⟨v, hv, hvnew, rfl⟩ := suffix_append_cases hsuffix
        · exact .inl (List.infix_iff_prefix_suffix.mpr ⟨t, hbegins, hrest⟩)
        · exact .inr (.inl ⟨v, hv, hvnew, _, hbegins⟩)
    · obtain hv | ⟨before, c, after, rfl, hkept⟩ := ih hrest
      · exact .inl hv
      · exact .inr ⟨p :: before, c, after, rfl, hkept⟩
    · exact .inl hv
    · exact .inr ⟨[], c, ps, rfl, hkept⟩

/-- What begins with kept characters stood in the text before, at least up to the first match that
has been replaced. -/
lemma prefix_text_of_prefix_render (h : m <+: ps.flatMap (Piece.render new)) :
    m <+: ps.flatMap Piece.text ∨
      ∃ u v x, m = u ++ v ∧ v ≠ [] ∧ (v <+: new ∨ new <+: v) ∧ .found x ∈ ps ∧
        u ++ x <+: ps.flatMap Piece.text := by
  induction ps generalizing m with
  | nil => exact .inl h
  | cons p ps ih =>
    obtain rfl | hm := eq_or_ne m []
    · exact .inl List.nil_prefix
    cases p with
    | kept c =>
      obtain ⟨d, m, rfl⟩ := List.exists_cons_of_ne_nil hm
      obtain ⟨rfl, hrest⟩ := List.cons_prefix_cons.mp h
      obtain htext | ⟨u, v, x, rfl, hv, hnew, hx, htext⟩ := ih hrest
      · exact .inl (List.cons_prefix_cons.mpr ⟨rfl, htext⟩)
      · exact .inr ⟨d :: u, v, x, rfl, hv, hnew, List.mem_cons_of_mem _ hx,
          List.cons_prefix_cons.mpr ⟨rfl, htext⟩⟩
    | found x =>
      exact .inr ⟨[], m, x, rfl, hm, List.prefix_or_prefix_of_prefix h (List.prefix_append _ _),
        List.mem_cons_self, List.prefix_append _ _⟩

/-- The first character of a text was kept or begins a match. -/
lemma exists_text_eq_cons_of_render (hne : ps.flatMap (Piece.render new) ≠ [])
    (hfound : ∀ x, .found x ∈ ps → x ≠ []) :
    ∃ d rest, ps.flatMap Piece.text = d :: rest ∧
      (d ∈ ps.flatMap (Piece.render new) ∨ ∃ x, .found (d :: x) ∈ ps) := by
  cases ps with
  | nil => exact absurd rfl hne
  | cons p ps =>
    cases p with
    | kept c => exact ⟨c, _, rfl, .inl List.mem_cons_self⟩
    | found x =>
      rcases List.exists_cons_of_ne_nil (hfound x List.mem_cons_self) with ⟨d, x, rfl⟩
      exact ⟨d, _, rfl, .inr ⟨x, List.mem_cons_self⟩⟩

/-! ## Whether there is a match -/

/-- Without a match nothing is replaced. -/
lemma flatMap_render_of_kept (hkept : ∀ x, .found x ∉ ps) (new : List Char) :
    ps.flatMap (Piece.render new) = ps.flatMap Piece.text := by
  refine List.flatMap_congr fun p hp => ?_
  cases p with
  | kept c => rfl
  | found x => exact absurd hp (hkept x)

/-- An expression occurs in a text if something is found. -/
lemma occursIn_eq_true_iff : r.occursIn s = true ↔ ∃ x, .found x ∈ r.pieces s := by
  rw [occursIn, List.any_eq_true]
  constructor
  · rintro ⟨p, hp, hfound⟩
    cases p with
    | kept c => cases hfound
    | found x => exact ⟨x, hp⟩
  · rintro ⟨x, hx⟩
    exact ⟨.found x, hx, rfl⟩

/-- Where every match is put back, nothing changes. -/
lemma replace_eq_self_of_found (hlocal : r.isLocal = true) (hr : r.isNullable = false)
    {f : List Char → List Char} (h : ∀ x, .found x ∈ r.pieces s → f x = x) : r.replace f s = s := by
  have htext : r.replace f s = (r.pieces s).flatMap Piece.text := by
    refine List.flatMap_congr fun p hp => ?_
    cases p with
    | kept c => rfl
    | found x => exact h x hp
  rw [htext, (cuts_pieces hlocal hr s).flatMap_text]

/-- Where an expression does not occur, there is nothing to replace. -/
lemma replace_eq_self (h : r.occursIn s = false) (hlocal : r.isLocal = true)
    (hr : r.isNullable = false) (f : List Char → List Char) : r.replace f s = s := by
  refine replace_eq_self_of_found hlocal hr fun x hx => ?_
  have htrue := occursIn_eq_true_iff.mpr ⟨x, hx⟩
  simp [h] at htrue

/-- **A match is found exactly when a described text stands somewhere.** -/
theorem occursIn_iff (hlocal : r.isLocal = true) (hr : r.isNullable = false) :
    r.occursIn s = true ↔ ∃ m, r.Describes m ∧ m <:+: s := by
  have hps := cuts_pieces hlocal hr s
  rw [occursIn_eq_true_iff]
  constructor
  · rintro ⟨x, hx⟩
    refine ⟨x, hps.describes_of_mem hx, ?_⟩
    rcases List.mem_iff_append.mp hx with ⟨before, after, hsplit⟩
    rw [← hps.flatMap_text, hsplit, List.flatMap_append, List.flatMap_cons]
    exact ⟨before.flatMap Piece.text, after.flatMap Piece.text, List.append_assoc _ _ _⟩
  · rintro ⟨m, hm, hstands⟩
    by_contra hno
    have hkept : ∀ x, .found x ∉ r.pieces s := fun x hx => hno ⟨x, hx⟩
    rcases hm.exists_eq_cons hr with ⟨d, rest, rfl⟩
    rw [← hps.flatMap_text, ← flatMap_render_of_kept hkept []] at hstands
    rcases exists_of_infix_render (List.cons_ne_nil d rest) hstands with
      ⟨v, hv, hsuffix, -⟩ | ⟨before, c, after, hsplit, hbegins⟩
    · exact hv (List.suffix_nil.mp hsuffix)
    · have hafter : ∀ x, .found x ∉ Piece.kept c :: after := by
        intro x hx
        exact hkept x (hsplit ▸ List.mem_append_right before hx)
      rw [flatMap_render_of_kept hafter] at hbegins
      exact (hsplit ▸ hps).not_describes hbegins hm

/-! ## Counting characters -/

section count

variable {p : Char → Bool}

/-- Replacing adds no character of a kind that the new text does not have. -/
lemma countP_render_le (hnew : new.countP p = 0) (ps : List Piece) :
    (ps.flatMap (Piece.render new)).countP p ≤ (ps.flatMap Piece.text).countP p := by
  induction ps with
  | nil => exact Nat.le_refl _
  | cons q ps ih =>
    rw [List.flatMap_cons, List.flatMap_cons, List.countP_append, List.countP_append]
    cases q with
    | kept c => exact Nat.add_le_add_left ih _
    | found x =>
      rw [Piece.render, hnew, Nat.zero_add]
      exact Nat.le_add_left_of_le ih

/-- Where each match holds such a character, they get fewer with each match. -/
lemma countP_render_lt (hnew : new.countP p = 0) (hx : .found x ∈ ps) (hpos : 0 < x.countP p) :
    (ps.flatMap (Piece.render new)).countP p < (ps.flatMap Piece.text).countP p := by
  rcases List.mem_iff_append.mp hx with ⟨before, after, rfl⟩
  simp only [List.flatMap_append, List.flatMap_cons, List.countP_append, Piece.render, Piece.text,
    hnew]
  have hbefore := countP_render_le hnew before
  have hafter := countP_render_le hnew after
  omega

end count

/-! ## Characters that replacements do not hold -/

/-- A character that no replacement holds has been kept. -/
lemma exists_of_render_eq {a w : List Char} {d : Char} (hd : d ∉ new)
    (h : ps.flatMap (Piece.render new) = a ++ d :: w) :
    ∃ before after, ps = before ++ .kept d :: after ∧ before.flatMap (Piece.render new) = a ∧
      after.flatMap (Piece.render new) = w := by
  induction ps generalizing a with
  | nil => simp at h
  | cons q ps ih =>
    rw [List.flatMap_cons] at h
    rcases List.append_eq_append_iff.mp h with ⟨a', rfl, hrest⟩ | ⟨b, hq, hrest⟩
    · rcases ih hrest with ⟨before, after, rfl, rfl, rfl⟩
      exact ⟨q :: before, after, rfl, List.flatMap_cons, rfl⟩
    · rcases b with _ | ⟨b, bs⟩
      · rcases ih (a := []) hrest.symm with ⟨before, after, rfl, hbefore, rfl⟩
        refine ⟨q :: before, after, rfl, ?_, rfl⟩
        rw [List.flatMap_cons, hbefore, List.append_nil, hq, List.append_nil]
      · obtain ⟨rfl, rfl⟩ := List.cons.inj hrest
        cases q with
        | kept c =>
          rcases List.append_eq_singleton_iff.mp hq.symm with ⟨rfl, hb⟩ | ⟨-, hb⟩
          · obtain ⟨rfl, rfl⟩ := List.cons.inj hb
            exact ⟨[], ps, rfl, rfl, rfl⟩
          · cases hb
        | found x =>
          have hmem : d ∈ new := by
            rw [show new = a ++ d :: bs from hq]
            exact List.mem_append_right a List.mem_cons_self
          exact absurd hmem hd

/-- Kept characters come before what begins with no character of a replacement. -/
lemma exists_of_render_eq_append {u w : List Char} {k : Char} (hnew : new.head? = some k)
    (hu : k ∉ u) (h : ps.flatMap (Piece.render new) = u ++ w) :
    ∃ after, ps = u.map .kept ++ after ∧ after.flatMap (Piece.render new) = w := by
  induction u generalizing ps with
  | nil => exact ⟨ps, rfl, h⟩
  | cons d u ih =>
    rw [List.mem_cons, not_or] at hu
    cases ps with
    | nil => simp at h
    | cons q ps =>
      cases q with
      | kept c =>
        obtain ⟨rfl, hrest⟩ := List.cons.inj h
        rcases ih hu.2 hrest with ⟨after, rfl, hafter⟩
        exact ⟨after, rfl, hafter⟩
      | found x =>
        rcases List.head?_eq_some_iff.mp hnew with ⟨rest, rfl⟩
        exact absurd (List.cons.inj h).1 hu.1

end Diagnosis.Pattern.Regex
