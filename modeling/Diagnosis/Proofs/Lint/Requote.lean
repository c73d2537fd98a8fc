import Diagnosis.Proofs.JavaScript.Literal

/-!
# Strings keep their value between other quotes

`requoteBody` reads a body two characters at a time and knows nothing of escapes; the language reads
escapes of any length. The two agree because what an escape reads behind its first character is never a
quote, a backslash or a dollar sign: a run of such characters is the same before and after, and what is
behind it is rewritten as if it stood alone (`takeWhile_requoteBody`, `drop_requoteBody`). So reading an
escape commutes with rewriting (`escape?_requoteBody`), and by induction on the length so does reading a
body (`value?_requoteBody`), whatever the quotes. What may stand between them is another matter: here the
new ones are apostrophes or double quotes.
-/

namespace Diagnosis.Lint

open Diagnosis.JavaScript
open Diagnosis.Pattern (isAsciiDigit isOctalDigit isHexDigit)

namespace Quotes

variable {old new : QuoteStyle} {s rest : List Char} {c k : Char} {p : Char → Bool}

/-! ## What is rewritten -/

/-- The characters that rewriting can insert or take away: the quotes and the backslash. -/
def specials : List Char := ['\'', '"', '\x60', '\\']

/-- The characters that rewriting can change: also the one that opens a substitution, which may get a
backslash. -/
def rewritten : List Char := '$' :: specials

/-- Requoting rewrites quotes. -/
lemma char_mem_rewritten (q : QuoteStyle) : q.char ∈ rewritten := by
  cases q <;> decide

/-- What requoting leaves alone is no quote. -/
lemma ne_char_of_not_mem (h : c ∉ rewritten) (q : QuoteStyle) : c ≠ q.char :=
  fun heq => h (heq ▸ char_mem_rewritten q)

/-- What requoting leaves alone is no backslash. -/
lemma ne_backslash_of_not_mem (h : c ∉ rewritten) : c ≠ '\\' := by
  rintro rfl
  exact h (by decide)

/-- A quote is no backslash. -/
lemma char_ne_backslash (q : QuoteStyle) : q.char ≠ '\\' := by
  cases q <;> decide

/-- A character needs an escape if it is the quote, or opens a substitution in a template. -/
lemma needsEscape_iff : needsEscape new.char c rest = true ↔
    c = new.char ∨ new = .backtick ∧ c = '$' ∧ rest.head? = some '\x7b' := by
  have hchar : new.char = '\x60' ↔ new = .backtick := by cases new <;> decide
  unfold needsEscape
  simp only [Bool.or_eq_true, Bool.and_eq_true, beq_iff_eq, hchar, and_assoc]

/-- What is left alone needs no escape. -/
lemma needsEscape_eq_false (h : c ∉ rewritten) : needsEscape new.char c rest = false := by
  rw [← Bool.not_eq_true, needsEscape_iff]
  rintro (hquote | ⟨-, rfl, -⟩)
  · exact ne_char_of_not_mem h new hquote
  · exact h List.mem_cons_self

section requoteBody

/-- A backslash goes with the next character, unless that is a quote that needs no escape any more. -/
lemma requoteBody_backslash (c : Char) (rest : List Char) :
    requoteBody old.char new.char ('\\' :: c :: rest) =
      (if c = old.char ∧ c ≠ new.char then [c] else ['\\', c]) ++
        requoteBody old.char new.char rest := by
  rw [requoteBody]
  simp only [Bool.and_eq_true, beq_iff_eq, bne_iff_ne]

/-- A lone backslash is kept. -/
lemma requoteBody_lone : requoteBody old.char new.char ['\\'] = ['\\'] := by
  cases old <;> cases new <;> rfl

/-- Any other character is kept, with a backslash before it if it needs one. -/
lemma requoteBody_cons (hc : c ≠ '\\') (rest : List Char) :
    requoteBody old.char new.char (c :: rest) =
      (if needsEscape new.char c rest then ['\\', c] else [c]) ++ requoteBody old.char new.char rest :=
  requoteBody.eq_3 _ _ _ _ fun _ _ h => absurd h hc

/-- What is left alone is kept. -/
lemma requoteBody_cons_plain (hc : c ∉ rewritten) (rest : List Char) :
    requoteBody old.char new.char (c :: rest) = c :: requoteBody old.char new.char rest := by
  rw [requoteBody_cons (ne_backslash_of_not_mem hc), needsEscape_eq_false hc]
  rfl

/-- A rewritten text begins as the text does, or with a quote or a backslash. -/
lemma exists_requoteBody_eq_cons (old : QuoteStyle) (c : Char) (rest : List Char) :
    ∃ d more, requoteBody old.char new.char (c :: rest) = d :: more ∧ (d = c ∨ d ∈ rewritten) := by
  by_cases hc : c = '\\'
  · subst hc
    cases rest with
    | nil => exact ⟨'\\', [], requoteBody_lone, .inl rfl⟩
    | cons d rest =>
      rw [requoteBody_backslash]
      split
      case isTrue hold => exact ⟨d, _, rfl, .inr (hold.1 ▸ char_mem_rewritten old)⟩
      case isFalse => exact ⟨'\\', _, rfl, .inl rfl⟩
  · rw [requoteBody_cons hc]
    split
    case isTrue => exact ⟨'\\', _, rfl, .inr (by decide)⟩
    case isFalse => exact ⟨c, _, rfl, .inl rfl⟩

/-- A run of characters that are never rewritten is the same before and after. -/
lemma takeWhile_requoteBody (hp : rewritten.any p = false) (s : List Char) :
    (requoteBody old.char new.char s).takeWhile p = s.takeWhile p := by
  induction s with
  | nil => rfl
  | cons c s ih =>
    by_cases hc : p c = true
    · have hplain : c ∉ rewritten := fun hmem => List.any_eq_false.mp hp c hmem hc
      rw [requoteBody_cons_plain hplain, List.takeWhile_cons_of_pos hc,
        List.takeWhile_cons_of_pos hc, ih]
    · obtain ⟨d, more, heq, hd⟩ := exists_requoteBody_eq_cons old c s
      have hd : ¬ p d = true := by
        obtain rfl | hd := hd
        · exact hc
        · exact List.any_eq_false.mp hp d hd
      rw [heq, List.takeWhile_cons_of_neg hd, List.takeWhile_cons_of_neg hc]

/-- What is behind such a run is rewritten as if it stood alone. -/
lemma drop_requoteBody (hp : rewritten.any p = false) {n : Nat}
    (hn : n ≤ (s.takeWhile p).length) :
    (requoteBody old.char new.char s).drop n = requoteBody old.char new.char (s.drop n) := by
  induction n generalizing s with
  | zero => rfl
  | succ n ih =>
    cases s with
    | nil => rfl
    | cons c s =>
      by_cases hc : p c = true
      · have hplain : c ∉ rewritten := fun hmem => List.any_eq_false.mp hp c hmem hc
        rw [List.takeWhile_cons_of_pos hc, List.length_cons] at hn
        rw [requoteBody_cons_plain hplain, List.drop_succ_cons, List.drop_succ_cons]
        exact ih (Nat.le_of_succ_le_succ hn)
      · rw [List.takeWhile_cons_of_neg hc] at hn
        exact absurd hn (Nat.not_succ_le_zero n)

/-- What comes behind a character that is left alone is what came behind it, requoted. -/
lemma after?_requoteBody (hk : k ∉ rewritten) (s : List Char) :
    after? k (requoteBody old.char new.char s) =
      (after? k s).map (requoteBody old.char new.char) := by
  cases s with
  | nil => rfl
  | cons c s =>
    rw [after?]
    split
    case isTrue hc =>
      rw [requoteBody_cons_plain (hc ▸ hk), after?, if_pos hc]
      rfl
    case isFalse hc =>
      obtain ⟨d, more, heq, hd⟩ := exists_requoteBody_eq_cons old c s
      have hne : d ≠ k := by
        obtain rfl | hd := hd
        · exact hc
        · exact fun h => hk (h ▸ hd)
      rw [heq, after?, if_neg hne]
      rfl

/-! ## What escapes read -/

/-- What has been read and what is left, when that is rewritten. -/
def leaveRequoted (old new : QuoteStyle) (r : List UInt16 × List Char) : List UInt16 × List Char :=
  (r.1, requoteBody old.char new.char r.2)

/-- Requoted, hexadecimal escapes mean the same as before. -/
lemma hexEscape?_requoteBody (n : Nat) (s : List Char) :
    hexEscape? n (requoteBody old.char new.char s) = (hexEscape? n s).map (leaveRequoted old new) := by
  have hrewritten : rewritten.any isHexDigit = false := by decide
  unfold hexEscape?
  rw [takeWhile_requoteBody hrewritten]
  dsimp only
  split
  case isTrue hlen =>
    rw [drop_requoteBody hrewritten (by rw [List.length_take] at hlen; omega)]
    rfl
  case isFalse => rfl

/-- Requoted, escapes in braces mean the same as before. -/
lemma bracedEscape?_requoteBody (s : List Char) :
    bracedEscape? (requoteBody old.char new.char s) = (bracedEscape? s).map (leaveRequoted old new) := by
  have hrewritten : rewritten.any isHexDigit = false := by decide
  unfold bracedEscape?
  rw [takeWhile_requoteBody hrewritten]
  dsimp only
  split
  case isTrue => rfl
  case isFalse =>
    rw [drop_requoteBody hrewritten (Nat.le_refl _), after?_requoteBody (by decide),
      Option.map_map, Option.map_map]
    rfl

/-- Requoted, octal escapes mean the same as before. -/
lemma octalEscape_requoteBody (c : Char) (s : List Char) :
    octalEscape c (requoteBody old.char new.char s) = leaveRequoted old new (octalEscape c s) := by
  have hrewritten : rewritten.any isOctalDigit = false := by decide
  unfold octalEscape
  rw [takeWhile_requoteBody hrewritten]
  dsimp only
  rw [drop_requoteBody hrewritten (by rw [List.length_take]; exact Nat.min_le_right _ _)]
  rfl

/-- Requoted, escapes of a digit mean the same as before. -/
lemma digitEscape?_requoteBody (legacy : Bool) (c : Char) (s : List Char) :
    digitEscape? legacy c (requoteBody old.char new.char s) =
      (digitEscape? legacy c s).map (leaveRequoted old new) := by
  unfold digitEscape?
  rw [takeWhile_requoteBody (by decide), octalEscape_requoteBody]
  split_ifs <;> rfl

/-- **An escape** reads the same whether what is behind it is rewritten or not. -/
lemma escape?_requoteBody (legacy : Bool) (c : Char) (s : List Char) :
    escape? legacy c (requoteBody old.char new.char s) =
      (escape? legacy c s).map (leaveRequoted old new) := by
  unfold escape?
  rw [hexEscape?_requoteBody, hexEscape?_requoteBody, digitEscape?_requoteBody,
    after?_requoteBody (by decide), after?_requoteBody (by decide)]
  split_ifs
  · rfl
  · cases after? '\x7b' s with
    | none => rfl
    | some braced => exact bracedEscape?_requoteBody braced
  · rfl
  · cases after? '\n' s <;> rfl
  · rfl

/-- What needs an escape may have a backslash in front. -/
lemma escape?_of_needsEscape (h : needsEscape new.char c rest = true) (legacy : Bool) (s : List Char) :
    escape? legacy c s = some (utf16 c.toNat, s) := by
  obtain rfl | ⟨-, rfl, -⟩ := needsEscape_iff.mp h
  · exact escape?_char new legacy s
  · rfl

/-- **A body** stands for the same string when it is rewritten. -/
lemma value?_requoteBody (legacy : Bool) (s : List Char) :
    value? legacy (requoteBody old.char new.char s) = value? legacy s := by
  fun_induction value? legacy s with
  | case1 => exact value?_nil legacy
  | case2 c rest hnone =>
    have hold : ¬ (c = old.char ∧ c ≠ new.char) := by
      rintro ⟨rfl, -⟩
      rw [escape?_char] at hnone
      cases hnone
    rw [requoteBody_backslash, if_neg hold, List.cons_append, List.singleton_append,
      value?_backslash, escape?_requoteBody, hnone]
    rfl
  | case3 c rest units left hsome ih =>
    rw [requoteBody_backslash]
    split
    case isTrue hold =>
      rw [hold.1, escape?_char] at hsome
      obtain ⟨rfl, rfl⟩ := Prod.mk.inj (Option.some.inj hsome)
      rw [hold.1, List.singleton_append, value?_cons (char_ne_backslash old), ih]
    case isFalse =>
      rw [List.cons_append, List.singleton_append, value?_backslash, escape?_requoteBody, hsome,
        Option.map_some, Option.bind_some, leaveRequoted, ih]
  | case4 => rw [requoteBody_lone, value?_lone]
  | case5 c rest hpair hlone ih =>
    have hc : c ≠ '\\' := fun hc => by
      cases rest with
      | nil => exact hlone hc rfl
      | cons d rest => exact hpair d rest hc rfl
    rw [requoteBody_cons hc]
    split
    case isTrue hescape =>
      rw [List.cons_append, List.singleton_append, value?_backslash, escape?_of_needsEscape hescape,
        Option.bind_some, ih]
    case isFalse => rw [List.singleton_append, value?_cons hc, ih]

end requoteBody

/-! ## Literals -/

/-- A rewritten body may stand between the new quotes. -/
lemma isBody_requoteBody (hnew : new ≠ .backtick) {body : List Char} (h : IsBody old body) :
    IsBody new (requoteBody old.char new.char body) := by
  have hsubstitution : ∀ P : Prop, new = .backtick → P := fun _ heq => absurd heq hnew
  induction h with
  | nil => exact .nil
  | @plain c rest _ hslash hfeed hreturn _ _ ih =>
    rw [requoteBody_cons hslash]
    split
    case isTrue => exact .escape (hsubstitution _) ih
    case isFalse hnone =>
      have hquote : c ≠ new.char := fun heq => hnone (needsEscape_iff.mpr (.inl heq))
      exact .plain hquote hslash hfeed hreturn (hsubstitution _) ih
  | @escape c rest _ _ ih =>
    rw [requoteBody_backslash]
    split
    case isTrue hold =>
      have hplain : c ≠ '\n' ∧ c ≠ '\r' := by
        rw [hold.1]
        cases old <;> decide
      exact .plain hold.2 (hold.1 ▸ char_ne_backslash old) hplain.1 hplain.2 (hsubstitution _) ih
    case isFalse => exact .escape (hsubstitution _) ih
  | @lineEnd rest _ _ ih =>
    have hreturn : '\r' ≠ old.char := by cases old <;> decide
    rw [requoteBody_backslash, if_neg fun h => hreturn h.1, requoteBody_cons_plain (by decide)]
    exact .lineEnd hnew ih

/-- **A literal keeps its value.** Rewritten for apostrophes or double quotes, a literal is again a literal,
with these quotes, and stands for the same string, in sloppy code as in strict code. -/
theorem requote_text (l : Literal) {t : QuoteStyle} (ht : t ≠ .backtick) :
    ∃ l' : Literal, l'.quote = t ∧ requote t.char l.text = l'.text ∧
      ∀ sloppy, l'.value? sloppy = l.value? sloppy := by
  refine ⟨⟨t, requoteBody l.quote.char t.char l.body, isBody_requoteBody ht l.isBody,
    fun heq => absurd heq ht⟩, rfl, ?_, fun sloppy => ?_⟩
  · rw [Literal.text, List.cons_append, requote, List.dropLast_concat]
    rfl
  · have hstring : (t != .backtick) = true := bne_iff_ne.mpr ht
    rw [Literal.value?, Literal.value?, value?_requoteBody, hstring, Bool.and_true]
    by_cases htemplate : l.quote = .backtick
    · -- what is legal in a template means the same in sloppy code
      obtain ⟨units, hunits⟩ := Option.isSome_iff_exists.mp (l.isLegal htemplate)
      rw [htemplate, bne_self_eq_false, Bool.and_false, hunits, value?_legacy hunits]
    · rw [bne_iff_ne.mpr htemplate, Bool.and_true]

/-- A template with an escaped quote, another quote and an escape of two digits. -/
def quotingTemplate : Literal where
  quote := .backtick
  body := ['\\', '\x60', '"', '\\', 'x', '4', '1']
  isBody := .escape (by decide) <| .plain (by decide) (by decide) (by decide) (by decide) (by decide) <|
    .escape (by decide) <| .plain (by decide) (by decide) (by decide) (by decide) (by decide) <|
      .plain (by decide) (by decide) (by decide) (by decide) (by decide) .nil
  isLegal := fun _ => by decide +kernel

/-- One quote loses its backslash, the other gets one. -/
theorem requote_text_template :
    QuoteStyle.double ≠ .backtick ∧ ∃ l' : Literal, l'.quote = .double ∧
      l'.text = ['"', '\x60', '\\', '"', '\\', 'x', '4', '1', '"'] ∧
      ∀ sloppy, l'.value? sloppy = some [96, 34, 65] := by
  have hdouble : QuoteStyle.double ≠ .backtick := by decide
  obtain ⟨l', hquote, htext, hvalue⟩ := requote_text quotingTemplate hdouble
  refine ⟨hdouble, l', hquote, htext.symm.trans (by decide), fun sloppy => (hvalue sloppy).trans ?_⟩
  cases sloppy <;> decide +kernel

end Quotes

end Diagnosis.Lint
