import Diagnosis.Proofs.Secret.Redaction
import Diagnosis.Proofs.Steps

/-!
# Placeholders that are put as they are written

A placeholder is read as a template, so not every placeholder is put as it is written. `IsVerbatim` says
by its characters which ones are: behind each backslash comes an inert character, which is neither a
backslash nor an ASCII letter or digit.

Each step of reading comes to an end of the text (`ReadsOn`). An escape gives one part for two characters
or more, unless its character is inert. So only a verbatim text has one part for each character
(`length_le_of_readTemplate`).

* **When a placeholder is put as it is written** (`redact_eq_replaceAll_iff`): whatever the text is, exactly
  if the placeholder is verbatim. Two tokens of different lengths tell all others: what a template puts
  for both holds no match, and so it has one part for each character.
* With a reference to the match, redaction leaves every secret where it is (`redact_eq_self_of_match`).
-/

namespace Diagnosis.Pattern

/-! ## Texts that stand for themselves -/

/-- Whether a character behind a backslash leaves both as they are. -/
def IsInert (c : Char) : Prop := c ≠ '\\' ∧ isAsciiLetter c = false ∧ isAsciiDigit c = false

/-- Whether a text is what it says as a template: each backslash stands in front of a character that
leaves both as they are. -/
def IsVerbatim (s : List Char) : Prop :=
  ∀ before after, s = before ++ '\\' :: after → ∃ c rest, after = c :: rest ∧ IsInert c

section verbatim

variable {c : Char} {s : List Char}

/-- The empty text stands for itself. -/
lemma isVerbatim_nil : IsVerbatim [] := fun before _ h =>
  absurd (h ▸ List.mem_append_right before List.mem_cons_self) List.not_mem_nil

/-- A text stands for itself if the rest does, and a backslash at its front leaves the next character alone.
-/
lemma isVerbatim_cons_iff :
    IsVerbatim (c :: s) ↔ (c = '\\' → ∃ d rest, s = d :: rest ∧ IsInert d) ∧ IsVerbatim s := by
  constructor
  · intro h
    exact ⟨fun hc => h [] s (hc ▸ rfl), fun before after hs => h (c :: before) after (hs ▸ rfl)⟩
  · rintro ⟨hc, hs⟩ before after hsplit
    rcases before with _ | ⟨b, before⟩
    · obtain ⟨hback, rfl⟩ := List.cons.inj hsplit
      exact hc hback
    · exact hs before after (List.cons.inj hsplit).2

/-- A character other than a backslash makes no difference. -/
lemma isVerbatim_cons_iff_of_ne (hc : c ≠ '\\') : IsVerbatim (c :: s) ↔ IsVerbatim s :=
  isVerbatim_cons_iff.trans (and_iff_right fun hback => absurd hback hc)

/-- A backslash makes a difference by the character behind it. -/
lemma isVerbatim_escape_iff : IsVerbatim ('\\' :: c :: s) ↔ IsInert c ∧ IsVerbatim s := by
  rw [isVerbatim_cons_iff]
  constructor
  · rintro ⟨hfirst, hs⟩
    obtain ⟨d, rest, hd, hinert⟩ := hfirst rfl
    obtain ⟨rfl, rfl⟩ := List.cons.inj hd
    exact ⟨hinert, (isVerbatim_cons_iff_of_ne hinert.1).mp hs⟩
  · rintro ⟨hc, hs⟩
    exact ⟨fun _ => ⟨c, s, rfl, hc⟩, (isVerbatim_cons_iff_of_ne hc.1).mpr hs⟩

/-- Without backslashes, a text stands for itself. -/
lemma isVerbatim_of_not_mem (h : '\\' ∉ s) : IsVerbatim s := fun before _ hs =>
  absurd (hs ▸ List.mem_append_right before List.mem_cons_self) h

/-- A lone backslash does not stand for itself. -/
lemma IsVerbatim.ne_lone (h : IsVerbatim s) : s ≠ ['\\'] := by
  rintro rfl
  obtain ⟨d, rest, hd, -⟩ := h [] [] rfl
  cases hd

end verbatim

/-! ## Reading to an end of a text -/

/-- A character other than a backslash is a token. -/
lemma tokens_cons {c : Char} (hc : c ≠ '\\') (s : List Char) : tokens (c :: s) = [c] :: tokens s := by
  rw [tokens] <;> simp [hc]

/-- A backslash is one together with the next character. -/
lemma tokens_escape (c : Char) (s : List Char) : tokens ('\\' :: c :: s) = ['\\', c] :: tokens s := by
  rw [tokens]

/-- Only a lone backslash gives the token of one. -/
lemma eq_of_tokens_eq_lone {s : List Char} (h : tokens s = [['\\']]) : s = ['\\'] := by
  rcases s with _ | ⟨c, s⟩
  · cases h
  by_cases hc : c = '\\'
  · subst hc
    rcases s with _ | ⟨d, s⟩
    · rfl
    · simp [tokens_escape] at h
  · rw [tokens_cons hc] at h
    exact absurd (List.cons.inj (List.cons.inj h).1).1 hc

/-- Whether a place is in front of a text that is more than a lone backslash. -/
def Cursor.StandsBefore (c : Cursor) (s : List Char) : Prop := c.rest = tokens s ∧ s ≠ ['\\']

section readers

variable {α β : Type} {c c' : Cursor} {s s' : List Char} {t : Token} {next : Option Token}

/-- A check of what comes next fails in front of a lone backslash. -/
lemma checkNext_run : checkNext.run c =
    if c.rest = [['\\']] then .error ⟨.danglingEscape, c.position⟩ else .ok ((), c) := by
  unfold checkNext
  simp only [StateT.run_bind, StateT.run_get, pure_bind]
  split <;> rfl

/-- At the end there is no token to take. -/
lemma take_run_nil (h : c.rest = []) : take.run c = .ok (none, c) := by
  unfold take
  simp only [StateT.run_bind, StateT.run_get, pure_bind, h]
  rfl

/-- Taking a token goes on behind it, unless that is in front of a lone backslash. -/
lemma take_run_cons {rest : List Token} (h : c.rest = t :: rest) :
    take.run c = if rest = [['\\']] then .error ⟨.danglingEscape, c.position + t.length⟩
      else .ok (some t, { c with position := c.position + t.length, rest := rest }) := by
  unfold take
  simp only [StateT.run_bind, StateT.run_get, pure_bind, h, StateT.run_modify, checkNext_run]
  split <;> rfl

/-- A token is taken in front of anything but a lone backslash. -/
lemma take_run_eq (h : c.rest = t :: tokens s) (hs : s ≠ ['\\']) :
    ∃ c', take.run c = .ok (some t, c') ∧ c'.StandsBefore s := by
  refine ⟨{ c with position := c.position + t.length, rest := tokens s }, ?_, rfl, hs⟩
  rw [take_run_cons h]
  exact if_neg fun hlone => hs (eq_of_tokens_eq_lone hlone)

/-- A token that is taken is a character, or a backslash and the character behind it. -/
lemma take_eq_ok (hc : c.StandsBefore s) (h : take.run c = .ok (next, c')) :
    (next = none ∧ s = [] ∧ c' = c) ∨ ∃ s', c'.StandsBefore s' ∧
      ((∃ d, next = some [d] ∧ d ≠ '\\' ∧ s = d :: s') ∨
        ∃ d, next = some ['\\', d] ∧ s = '\\' :: d :: s') := by
  have htake : ∀ {t : Token} {s' : List Char}, c.rest = t :: tokens s' →
      next = some t ∧ c'.StandsBefore s' := by
    intro t s' hrest
    rw [take_run_cons hrest] at h
    split at h
    case isTrue => cases h
    case isFalse hlone =>
      cases h
      exact ⟨rfl, rfl, fun hs' => hlone (congrArg tokens hs')⟩
  obtain ⟨hrest, hne⟩ := hc
  rcases s with _ | ⟨d, s⟩
  · rw [take_run_nil hrest] at h
    cases h
    exact .inl ⟨rfl, rfl, rfl⟩
  by_cases hd : d = '\\'
  · subst hd
    rcases s with _ | ⟨d, s⟩
    · exact absurd rfl hne
    · obtain ⟨hnext, hc'⟩ := htake (hrest.trans (tokens_escape d s))
      exact .inr ⟨s, hc', .inr ⟨d, hnext, rfl⟩⟩
  · obtain ⟨hnext, hc'⟩ := htake (hrest.trans (tokens_cons hd s))
    exact .inr ⟨s, hc', .inl ⟨d, hnext, hd, rfl⟩⟩

/-- Whether a step, where it succeeds, gives a result of a kind and comes to an end of the text. -/
def ReadsOn (m : Reader α) (P : α → Prop) : Prop :=
  ∀ ⦃c c' s a⦄, c.StandsBefore s → m.run c = .ok (a, c') → P a ∧ ∃ s', s' <:+ s ∧ c'.StandsBefore s'

variable {P : α → Prop} {Q : β → Prop} {m : Reader α} {f : α → Reader β}

/-- A step that gives a result without reading stays in front of the text. -/
lemma readsOn_pure {a : α} (ha : P a) : ReadsOn (pure a) P := by
  intro c c' s b hc h
  cases h
  exact ⟨ha, s, List.suffix_rfl, hc⟩

/-- A step that always fails never leaves the text. -/
lemma readsOn_throw (fault : Fault) : ReadsOn (throw fault) P := by
  intro c c' s b hc h
  cases h

/-- A step that looks where it is stays in front of the text. -/
lemma readsOn_get : ReadsOn get fun _ => True := by
  intro c c' s b hc h
  cases h
  exact ⟨trivial, s, List.suffix_rfl, hc⟩

/-- Two steps do so one after the other, the second on what the first gives. -/
lemma ReadsOn.bind (hm : ReadsOn m fun _ => True) (hf : ∀ a, ReadsOn (f a) Q) :
    ReadsOn (m >>= f) Q := by
  intro c c'' s b hc h
  rw [StateT.run_bind] at h
  obtain ⟨⟨a, c'⟩, ha, hb⟩ := bind_eq_ok_iff.mp h
  obtain ⟨-, s', hs', hc'⟩ := hm hc ha
  obtain ⟨hqb, s'', hs'', hc''⟩ := hf a hc' hb
  exact ⟨hqb, s'', hs''.trans hs', hc''⟩

/-- Refusing never succeeds. -/
lemma readsOn_refuse (reason : Reason) (back : Nat) : ReadsOn (refuse reason back) P :=
  readsOn_get.bind fun _ => readsOn_throw _

/-- A look at the next token stays in front of the text. -/
lemma readsOn_peek : ReadsOn peek fun _ => True :=
  readsOn_get.bind fun _ => readsOn_pure trivial

/-- Taking a token comes to an end of the text. -/
lemma readsOn_take : ReadsOn take fun _ => True := by
  intro c c' s next hc h
  obtain ⟨-, rfl, rfl⟩ | ⟨s', hc', ⟨d, -, -, rfl⟩ | ⟨d, -, rfl⟩⟩ := take_eq_ok hc h
  · exact ⟨trivial, [], List.suffix_rfl, hc⟩
  · exact ⟨trivial, s', List.suffix_cons d s', hc'⟩
  · exact ⟨trivial, s', (List.suffix_cons d s').trans (List.suffix_cons _ _), hc'⟩

/-- Taking a given token, if it is there, comes to an end of the text. -/
lemma readsOn_takeIf (x : Char) : ReadsOn (takeIf x) fun _ => True := by
  refine readsOn_peek.bind fun next => ?_
  split
  · exact readsOn_take.bind fun _ => readsOn_pure trivial
  · exact readsOn_pure trivial

/-- Taking characters of a kind comes to an end of the text. -/
lemma readsOn_takeWhile (p : Char → Bool) (n : Nat) : ReadsOn (takeWhile p n) fun _ => True := by
  induction n with
  | zero => exact readsOn_pure trivial
  | succ n ih =>
    refine readsOn_peek.bind fun next => ?_
    split
    · split
      · exact readsOn_take.bind fun _ => ih.bind fun _ => readsOn_pure trivial
      · exact readsOn_pure trivial
    · exact readsOn_pure trivial

/-- Reading a name comes to an end of the text. -/
lemma readsOn_readName (fuel : Nat) (found : List Char) :
    ReadsOn (readName fuel found) fun _ => True := by
  induction fuel generalizing found with
  | zero => exact readsOn_pure trivial
  | succ fuel ih =>
    refine readsOn_take.bind fun next => ?_
    split
    · split
      · exact readsOn_refuse _ _
      · exact readsOn_refuse _ _
    · split
      · exact readsOn_refuse _ _
      · exact readsOn_pure trivial
    · exact ih _

/-- Looking up a group by its number comes to an end of the text. -/
lemma readsOn_readGroup (groups n back : Nat) : ReadsOn (readGroup groups n back) fun _ => True := by
  unfold readGroup
  split
  · exact readsOn_refuse _ _
  · exact readsOn_pure trivial

/-- Reading a reference by name comes to an end of the text. -/
lemma readsOn_readNamedGroup (groups : Nat) : ReadsOn (readNamedGroup groups) fun _ => True := by
  unfold readNamedGroup
  refine (readsOn_takeIf _).bind fun found => ?_
  extract_lets named
  have hnamed : ∀ r, ReadsOn (named r) fun _ => True := by
    intro r
    refine readsOn_get.bind fun c => (readsOn_readName _ _).bind fun name => ?_
    extract_lets numbered
    have hnumbered : ∀ r, ReadsOn (numbered r) fun _ => True := by
      intro r
      unfold numbered
      split
      · exact readsOn_readGroup _ _ _
      · exact readsOn_refuse _ _
    split
    · exact (readsOn_throw _).bind hnumbered
    · exact hnumbered ()
  split
  · exact (readsOn_refuse _ _).bind hnamed
  · exact hnamed ()

/-- Reading an octal escape comes to an end of the text. -/
lemma readsOn_readOctal (digits : List Char) : ReadsOn (readOctal digits) fun _ => True := by
  unfold readOctal
  extract_lets
  split
  · exact readsOn_refuse _ _
  · exact readsOn_pure trivial

/-- Reading a reference by number comes to an end of the text. -/
lemma readsOn_readNumberedGroup (groups : Nat) (c : Char) :
    ReadsOn (readNumberedGroup groups c) fun _ => True := by
  unfold readNumberedGroup
  refine (readsOn_takeWhile _ _).bind fun second => ?_
  extract_lets digits grouped
  have hgrouped : ∀ third, ReadsOn (grouped third) fun _ => True := by
    intro third
    unfold grouped
    split
    · exact readsOn_readGroup _ _ _
    · exact (readsOn_readOctal _).bind fun _ => readsOn_pure trivial
  split
  · split
    · exact (readsOn_takeWhile _ _).bind hgrouped
    · exact (readsOn_pure trivial).bind hgrouped
  · exact (readsOn_pure trivial).bind hgrouped

/-- An escape gives one part, unless it is a backslash and a character that stand for themselves. -/
lemma readsOn_readTemplateEscape (groups : Nat) (c : Char) :
    ReadsOn (readTemplateEscape groups c) fun parts =>
      parts.length = 1 ∨ parts = [.char '\\', .char c] ∧ IsInert c := by
  have hone : ∀ part, ReadsOn (pure [part]) fun parts : List TemplatePart =>
      parts.length = 1 ∨ parts = [.char '\\', .char c] ∧ IsInert c := fun part =>
    readsOn_pure (.inl rfl)
  unfold readTemplateEscape
  split
  · exact (readsOn_readNamedGroup _).bind fun _ => hone _
  split
  · exact (readsOn_takeWhile _ _).bind fun _ => hone _
  split
  · exact (readsOn_readNumberedGroup _ _).bind fun _ => hone _
  next hdigit =>
  split
  · exact hone _
  split
  · exact hone _
  next hcontrol =>
  split
  · exact readsOn_refuse _ _
  next hletter =>
  have hback : c ≠ '\\' := by
    rintro rfl
    cases hcontrol
  exact readsOn_pure
    (.inr ⟨rfl, hback, Bool.eq_false_iff.mpr hletter, Bool.eq_false_iff.mpr hdigit⟩)

/-! ## The parts of a template -/

section parts

variable {groups fuel : Nat} {found parts : List TemplatePart}

/-- At the end, the parts are those found. -/
lemma readParts_run_nil (h : take.run c = .ok (none, c')) :
    (readParts groups (fuel + 1) found).run c = .ok (found, c') := by
  rw [readParts, StateT.run_bind, h]
  rfl

/-- A character is a part of its own. -/
lemma readParts_run_char {d : Char} (h : take.run c = .ok (some [d], c')) :
    (readParts groups (fuel + 1) found).run c =
      (readParts groups fuel (found ++ [.char d])).run c' := by
  rw [readParts, StateT.run_bind, h]
  dsimp only [bind, Except.bind]
  split
  case h_1 heq | h_2 heq => cases heq
  case h_3 heq =>
    cases heq
    rfl

/-- An escape sequence gives its own parts. -/
lemma readParts_run_escape {d : Char} (h : take.run c = .ok (some ['\\', d], c')) :
    (readParts groups (fuel + 1) found).run c =
      (readTemplateEscape groups d >>= fun new => readParts groups fuel (found ++ new)).run c' := by
  rw [readParts, StateT.run_bind, h]
  rfl

/-- A template has at most one part for each character, and fewer than that unless it is verbatim. -/
lemma length_le_of_readParts (hc : c.StandsBefore s)
    (h : (readParts groups fuel found).run c = .ok (parts, c')) :
    parts.length ≤ found.length + s.length ∧
      (parts.length = found.length + s.length → IsVerbatim s) := by
  induction fuel generalizing found c s with
  | zero =>
    cases h
    refine ⟨Nat.le_add_right _ _, fun hlen => ?_⟩
    obtain rfl := List.eq_nil_of_length_eq_zero (Nat.add_eq_left.mp hlen.symm)
    exact isVerbatim_nil
  | succ fuel ih =>
    have hstep := h
    rw [readParts, StateT.run_bind] at hstep
    obtain ⟨⟨next, c₁⟩, htake, -⟩ := bind_eq_ok_iff.mp hstep
    obtain ⟨rfl, rfl, rfl⟩ | ⟨s₁, hc₁, ⟨d, rfl, hd, rfl⟩ | ⟨d, rfl, rfl⟩⟩ := take_eq_ok hc htake
    · rw [readParts_run_nil htake] at h
      cases h
      exact ⟨Nat.le_add_right _ _, fun _ => isVerbatim_nil⟩
    · rw [readParts_run_char htake] at h
      obtain ⟨hle, hverbatim⟩ := ih hc₁ h
      rw [isVerbatim_cons_iff_of_ne hd]
      simp only [List.length_append, List.length_cons, List.length_nil] at hle hverbatim ⊢
      exact ⟨by omega, fun hlen => hverbatim (by omega)⟩
    · rw [readParts_run_escape htake, StateT.run_bind] at h
      obtain ⟨⟨new, c₂⟩, hnew, hparts⟩ := bind_eq_ok_iff.mp h
      obtain ⟨hkind, s₂, hs₂, hc₂⟩ := readsOn_readTemplateEscape groups d hc₁ hnew
      obtain ⟨hle, hverbatim⟩ := ih hc₂ hparts
      have hlen₂ := hs₂.length_le
      simp only [List.length_append, List.length_cons] at hle hverbatim ⊢
      obtain hone | ⟨rfl, hinert⟩ := hkind
      · -- two characters have become one part
        exact ⟨by omega, fun hlen => by omega⟩
      · simp only [List.length_cons, List.length_nil] at hle hverbatim
        refine ⟨by omega, fun hlen => isVerbatim_escape_iff.mpr ⟨hinert, ?_⟩⟩
        rw [← hs₂.eq_of_length (by omega)]
        exact hverbatim (by omega)

/-- An inert character behind a backslash stands for itself, and so does the backslash. -/
lemma readTemplateEscape_of_isInert {d : Char} (hd : IsInert d) (groups : Nat) :
    readTemplateEscape groups d = pure [.char '\\', .char d] := by
  obtain ⟨hback, hletter, hdigit⟩ := hd
  have hne : ∀ x, isAsciiLetter x = true ∨ isAsciiDigit x = true → d ≠ x := by
    rintro x hx rfl
    rcases hx with hx | hx
    · exact absurd hx (by simp [hletter])
    · exact absurd hx (by simp [hdigit])
  have hcontrol : controlOf? d = none := by
    unfold controlOf?
    split
    case h_7 => exact absurd rfl hback
    case h_8 => rfl
    all_goals exact absurd rfl (hne _ (.inl (by decide)))
  unfold readTemplateEscape
  rw [if_neg (hne 'g' (.inl (by decide))), if_neg (hne '0' (.inr (by decide))),
    if_neg (Bool.eq_false_iff.mp hdigit), if_neg (hne 'b' (.inl (by decide))), hcontrol]
  exact if_neg (Bool.eq_false_iff.mp hletter)

/-- A text that stands for itself is read as its characters, behind the parts found. -/
lemma readParts_of_isVerbatim (found : List TemplatePart) (hs : IsVerbatim s)
    (hc : c.rest = tokens s) (hfuel : s.length < fuel) :
    ∃ c', (readParts groups fuel found).run c = .ok (found ++ s.map .char, c') := by
  induction fuel generalizing found c s with
  | zero => exact absurd hfuel (Nat.not_lt_zero _)
  | succ fuel ih =>
    rcases s with _ | ⟨d, s⟩
    · rw [readParts_run_nil (take_run_nil hc), List.map_nil, List.append_nil]
      exact ⟨c, rfl⟩
    rw [List.length_cons] at hfuel
    by_cases hd : d = '\\'
    · subst hd
      rcases s with _ | ⟨d, s⟩
      · exact absurd rfl hs.ne_lone
      obtain ⟨hinert, hs⟩ := isVerbatim_escape_iff.mp hs
      rw [List.length_cons] at hfuel
      obtain ⟨c₁, htake, hc₁⟩ := take_run_eq (hc.trans (tokens_escape d s)) hs.ne_lone
      rw [readParts_run_escape htake, readTemplateEscape_of_isInert hinert, pure_bind]
      have hrest := ih (found ++ [.char '\\', .char d]) hs hc₁.1 (by omega)
      rwa [List.append_assoc] at hrest
    · have hs := (isVerbatim_cons_iff_of_ne hd).mp hs
      obtain ⟨c₁, htake, hc₁⟩ := take_run_eq (hc.trans (tokens_cons hd s)) hs.ne_lone
      rw [readParts_run_char htake]
      have hrest := ih (found ++ [.char d]) hs hc₁.1 (by omega)
      rwa [List.append_assoc] at hrest

/-- A template is read part by part, unless it is a lone backslash. -/
lemma readTemplate_eq_ok_iff :
    readTemplate groups s = .ok parts ↔
      s ≠ ['\\'] ∧
        ∃ c', (readParts groups (s.length + 1) []).run ⟨0, tokens s, false⟩ = .ok (parts, c') := by
  rw [readTemplate, StateT.run'_eq, StateT.run_bind, checkNext_run]
  split
  case isTrue hlone =>
    exact iff_of_false (fun h => nomatch h) fun h => h.1 (eq_of_tokens_eq_lone hlone)
  case isFalse hlone =>
    rw [and_iff_right fun hs => hlone (congrArg tokens hs)]
    dsimp only [bind, Except.bind]
    generalize StateT.run _ _ = result
    rcases result with fault | ⟨parts', c'⟩
    · simp [Functor.map, Except.map]
    · simp [Functor.map, Except.map]

/-- A text that stands for itself is, as a template, its characters. -/
lemma readTemplate_of_isVerbatim (hs : IsVerbatim s) (groups : Nat) :
    readTemplate groups s = .ok (s.map .char) :=
  readTemplate_eq_ok_iff.mpr
    ⟨hs.ne_lone, readParts_of_isVerbatim [] hs rfl (Nat.lt_succ_self s.length)⟩

/-- Only a verbatim text has one part for each character. -/
lemma length_le_of_readTemplate (h : readTemplate groups s = .ok parts) :
    parts.length ≤ s.length ∧ (parts.length = s.length → IsVerbatim s) := by
  obtain ⟨hs, c', hparts⟩ := readTemplate_eq_ok_iff.mp h
  obtain ⟨hle, hverbatim⟩ := length_le_of_readParts ⟨rfl, hs⟩ hparts
  rw [List.length_nil, Nat.zero_add] at hle hverbatim
  exact ⟨hle, hverbatim⟩

end parts

end readers

/-! ## What a template gives -/

section fill

variable {parts : List TemplatePart} {found : List Char}

/-- An empty template gives nothing. -/
@[simp] lemma fillTemplate_nil : fillTemplate [] found = [] := rfl

/-- A character of a template is put. -/
@[simp] lemma fillTemplate_char {c : Char} :
    fillTemplate (.char c :: parts) found = c :: fillTemplate parts found := rfl

/-- A reference to the whole match puts what is found. -/
@[simp] lemma fillTemplate_match :
    fillTemplate (.group 0 :: parts) found = found ++ fillTemplate parts found := rfl

/-- A reference to any other group puts nothing. -/
@[simp] lemma fillTemplate_group {n : Nat} :
    fillTemplate (.group (n + 1) :: parts) found = fillTemplate parts found := rfl

/-- Every reference to the match makes what a template gives longer by the match. -/
lemma length_fillTemplate (parts : List TemplatePart) (found : List Char) :
    (fillTemplate parts found).length =
      (fillTemplate parts []).length + parts.count (.group 0) * found.length := by
  induction parts with
  | nil => simp
  | cons part parts ih =>
    rcases part with c | _ | n
    · simp [ih, Nat.add_right_comm]
    · simp [ih, Nat.add_mul, Nat.add_comm, Nat.add_left_comm]
    · simp [ih]

/-- Filled with nothing, a template gives no more characters than it has parts. -/
lemma length_fillTemplate_nil_le (parts : List TemplatePart) :
    (fillTemplate parts []).length ≤ parts.length := by
  induction parts with
  | nil => simp
  | cons part parts ih =>
    rcases part with c | _ | n
    · simp [ih]
    · simp [Nat.le_succ_of_le ih]
    · simp [Nat.le_succ_of_le ih]

/-- A template that gives the same for matches of different lengths has as many parts as that has
characters, or more. -/
lemma length_le_of_fillTemplate_eq {new x y : List Char} (hx : fillTemplate parts x = new)
    (hy : fillTemplate parts y = new) (hlen : x.length ≠ y.length) : new.length ≤ parts.length := by
  have hx := congrArg List.length hx
  have hy := congrArg List.length hy
  rw [length_fillTemplate] at hx hy
  have hcount : parts.count (.group 0) = 0 := by
    by_contra h
    exact hlen (Nat.eq_of_mul_eq_mul_left (Nat.pos_of_ne_zero h) (by omega))
  rw [hcount, Nat.zero_mul, Nat.add_zero] at hx
  exact hx ▸ length_fillTemplate_nil_le parts

end fill

end Diagnosis.Pattern

namespace Diagnosis.Secret

open Diagnosis.Pattern Diagnosis.Pattern.Regex

variable {f : Form} {fs : List Form} {new : Form → List Char → List Char} {s out : List Char}

/-! ## Reading the placeholder -/

/-- Where redaction does not fail, the placeholder can be read for every form. -/
lemma exists_putsFor_of_foldlM {r : Redactor} (h : fs.foldlM r.redactForm s = .ok out) :
    ∀ f ∈ fs, ∃ new, r.PutsFor f new := by
  induction fs generalizing s with
  | nil => exact List.forall_mem_nil _
  | cons f fs ih =>
    rw [List.foldlM_cons] at h
    obtain ⟨s', hform, hfs⟩ := bind_eq_ok_iff.mp h
    obtain ⟨parts, hparts, -⟩ := bind_eq_ok_iff.mp hform
    exact List.forall_mem_cons.mpr ⟨⟨_, parts, hparts, rfl⟩, ih hfs⟩

/-- A redaction that succeeds puts something for every form. -/
lemma exists_putsFor_of_redact {r : Redactor} {t t' : String} (ht : t ≠ "") (h : r.redact t = .ok t') :
    ∀ f ∈ r.forms, ∃ new, r.PutsFor f new := by
  rw [Redactor.redact, if_neg (by simpa using ht)] at h
  cases hfold : r.forms.foldlM r.redactForm t.toList with
  | ok out => exact exists_putsFor_of_foldlM hfold
  | error e =>
    rw [hfold] at h
    cases h

/-- A placeholder that stands for itself has its characters as a template, for every form. -/
lemma template_of_isVerbatim {r : Redactor} (h : IsVerbatim r.placeholder.toList) (f : Form) :
    r.template f = .ok (r.placeholder.toList.map .char) := by
  rw [Redactor.template]
  split
  · rw [readTemplate_of_isVerbatim h]
  · rfl

/-- Only a placeholder that stands for itself has as many parts as characters. -/
lemma isVerbatim_of_template {r : Redactor} {parts : List TemplatePart} (h : r.template f = .ok parts)
    (hlen : r.placeholder.toList.length ≤ parts.length) : IsVerbatim r.placeholder.toList := by
  rw [Redactor.template] at h
  split at h
  case isTrue =>
    split at h
    case h_1 hparts =>
      cases h
      obtain ⟨hle, hverbatim⟩ := length_le_of_readTemplate hparts
      exact hverbatim (Nat.le_antisymm hle hlen)
    case h_2 => cases h
  case isFalse hback => exact isVerbatim_of_not_mem (by simpa using hback)

/-! ## What is put in place of secrets -/

/-- A text that is one signed token and holds no other secret is replaced as a whole. -/
lemma replaceAll_signedToken (hothers : ∀ f ∈ forms.dropLast, f.regex.occursIn s = false)
    (htoken : signedToken.regex.pieces s = [.found s]) :
    replaceAll new forms s = new signedToken s := by
  have hforms : forms = forms.dropLast ++ [signedToken] := rfl
  have hkept : replaceAll new forms.dropLast s = s :=
    replaceAll_of_occursIn_eq_false (fun f hf => apart_of_mem (List.dropLast_subset _ hf)) hothers
  have hlast : replaceAll new forms s = signedToken.regex.replace (new signedToken) s := by
    rw [replaceAll] at hkept
    rw [hforms, replaceAll, List.foldl_append, hkept]
    rfl
  rw [hlast, replace, htoken]
  exact List.append_nil _

/-- **Redaction puts the placeholder as it is written in place of every secret, whatever the text, exactly
if the placeholder is verbatim.** -/
theorem redact_eq_replaceAll_iff (placeholder : String) :
    (∀ t : String, ({ placeholder } : Redactor).redact t =
      .ok (String.ofList (replaceAll (fun _ _ => placeholder.toList) forms t.toList))) ↔
        IsVerbatim placeholder.toList := by
  constructor
  · intro h
    choose! new hnew using exists_putsFor_of_redact (by decide) (h "eyJ.eyJ.")
    -- two tokens of different lengths tell a reference to the match from a text
    have htoken : ∀ t ∈ ["eyJ.eyJ.", "eyJ.eyJ.a"], new signedToken t.toList = placeholder.toList := by
      have hothers : ∀ t ∈ ["eyJ.eyJ.", "eyJ.eyJ.a"], ∀ f ∈ forms.dropLast,
        f.regex.occursIn t.toList = false := by decide +kernel
      have hpieces : ∀ t ∈ ["eyJ.eyJ.", "eyJ.eyJ.a"],
        signedToken.regex.pieces t.toList = [.found t.toList] := by decide
      intro t ht
      have hsame := String.ofList_injective
        (Except.ok.inj ((redact_of_putsFor hnew t).symm.trans (h t)))
      rwa [replaceAll_signedToken (hothers t ht) (hpieces t ht),
        replaceAll_signedToken (hothers t ht) (hpieces t ht)] at hsame
    obtain ⟨parts, hparts, hfill⟩ := hnew signedToken (by simp [forms])
    rw [← hfill] at htoken
    refine isVerbatim_of_template hparts ?_
    exact length_le_of_fillTemplate_eq (htoken "eyJ.eyJ." (by simp)) (htoken "eyJ.eyJ.a" (by simp))
      (by decide)
  · intro h
    exact redact_of_putsFor fun f _ =>
      ⟨_, template_of_isVerbatim h f, funext fun found => fillTemplate_map_char _ found⟩

example : Redactor.redact ⟨"\\", forms⟩ "x" = .error (.badPlaceholder "\\" ⟨.danglingEscape, 0⟩) := by
  decide

/-- A placeholder that refers to the match leaves every secret where it is. -/
theorem redact_eq_self_of_match (t : String) : Redactor.redact ⟨"\\g<0>", forms⟩ t = .ok t := by
  have htemplate : ∀ f ∈ forms, Redactor.template ⟨"\\g<0>", forms⟩ f = .ok [.group 0] := by
    decide +kernel
  have hputs : ∀ f ∈ forms, Redactor.PutsFor ⟨"\\g<0>", forms⟩ f fun found => found := fun f hf =>
    ⟨_, htemplate f hf, funext fun found => List.append_nil found⟩
  rw [redact_of_putsFor hputs, replaceAll_eq_self (fun f hf => apart_of_mem hf) fun _ _ _ _ => rfl,
    String.ofList_toList]

end Diagnosis.Secret
