import Diagnosis.Text.Numeral
import Mathlib.Data.List.Infix

/-!
# Runs of digits

When the digits that stand in a row are a numeral. A digit is no blank, no sign and no underscore, so
a text of digits alone is read as a number unless there are too many of them (`readWhole_digits`). A
text without blanks, signs and underscores is a number in no other case (`exists_readWhole_iff`). The decimal
digits of a number are read back as the number (`readWhole_toDigits`).
-/

namespace Diagnosis.Text

variable {c : Char} {s t : List Char}

/-! ## Runs -/

/-- Whether so many characters of a kind stand in a row in a text. -/
def HasRun (p : Char → Bool) (n : Nat) (s : List Char) : Prop :=
  ∃ run, run <:+: s ∧ run.length = n ∧ ∀ c ∈ run, p c = true

/-- A run in a part of a text is one in the text. -/
lemma HasRun.of_isInfix {p : Char → Bool} {n : Nat} (h : HasRun p n t) (ht : t <:+: s) :
    HasRun p n s := by
  obtain ⟨run, hrun, hlength, hp⟩ := h
  exact ⟨run, hrun.trans ht, hlength, hp⟩

/-- A text is as long as its runs at least. -/
lemma HasRun.le_length {p : Char → Bool} {n : Nat} (h : HasRun p n s) : n ≤ s.length := by
  obtain ⟨run, hrun, rfl, -⟩ := h
  exact hrun.length_le

/-! ## Blanks and digits -/

/-- The code points of the blanks. -/
def blankCodes : List Nat :=
  [9, 10, 11, 12, 13, 0x1C, 0x1D, 0x1E, 0x1F, 0x20, 0x85, 0xA0, 0x1680, 0x2000, 0x2001, 0x2002,
    0x2003, 0x2004, 0x2005, 0x2006, 0x2007, 0x2008, 0x2009, 0x200A, 0x2028, 0x2029, 0x202F, 0x205F,
    0x3000]

/-- The blanks are those listed. -/
lemma mem_blanks (h : isBlank c = true) : c ∈ blankCodes.map Char.ofNat := by
  refine List.mem_map.mpr ⟨c.toNat, ?_, Char.ofNat_toNat c⟩
  simp only [isBlank, Bool.or_eq_true, Bool.and_eq_true, decide_eq_true_eq] at h
  simp only [blankCodes, List.mem_cons, List.not_mem_nil, or_false]
  omega

/-- A digit is no blank. -/
lemma not_isBlank_of_isDigit (h : isDigit c = true) : isBlank c = false := by
  rw [Bool.eq_false_iff]
  intro hblank
  have hblanks : (blankCodes.map Char.ofNat).all (!isDigit ·) = true := by decide +kernel
  have hc := List.all_eq_true.mp hblanks c (mem_blanks hblank)
  rw [h] at hc
  exact Bool.false_ne_true hc

/-- In ASCII, the ten digits are the only ones. -/
lemma isDigit_of_ascii (h : c.toNat < 128) : isDigit c = c.isDigit := by
  have hall : (List.range 128).all (fun n => isDigit (Char.ofNat n) == (Char.ofNat n).isDigit) = true := by
    decide +kernel
  have hc := List.all_eq_true.mp hall c.toNat (List.mem_range.mpr h)
  rwa [Char.ofNat_toNat, beq_iff_eq] at hc

/-! ## Texts of digits alone -/

/-- Nothing is trimmed from a text without blanks. -/
lemma trimWhile_eq_self {p : Char → Bool} (h : ∀ c ∈ s, p c = false) : trimWhile p s = s := by
  have hdrop : ∀ t : List Char, (∀ c ∈ t, p c = false) → t.dropWhile p = t := by
    intro t ht
    cases t with
    | nil => rfl
    | cons c t => exact List.dropWhile_cons_of_neg (Bool.eq_false_iff.mp (ht c List.mem_cons_self))
  rw [trimWhile, dropEndWhile, hdrop s h, hdrop s.reverse fun c hc => h c (List.mem_reverse.mp hc),
    List.reverse_reverse]

/-- A digit has a value. -/
lemma exists_digitValue? (h : isDigit c = true) : ∃ d, digitValue? c = some d := by
  rw [isDigit, isWithin, decide_eq_true_eq] at h
  rw [digitValue?]
  exact ⟨_, if_pos h⟩

/-- Only digits have a value. -/
lemma isDigit_of_digitValue? {d : Nat} (h : digitValue? c = some d) : isDigit c = true := by
  rw [digitValue?] at h
  rw [isDigit, isWithin, decide_eq_true_eq]
  exact (ite_eq_iff.mp h).elim And.left fun hnone => absurd hnone.2 nofun

/-- Signs and underscores are no digits. -/
lemma ne_of_isDigit {d : Char} (h : isDigit c = true) (hd : d ∈ ['_', '-', '+', ':']) :
    c ≠ d := by
  have hnone : ∀ d ∈ ['_', '-', '+', ':'], d.toNat < 128 ∧ d.isDigit = false := by simp
  rintro rfl
  obtain ⟨hlt, hc⟩ := hnone c hd
  exact Bool.false_ne_true (hc.symm.trans ((isDigit_of_ascii hlt).symm.trans h))

section

-- the table of digits is too long to be unfolded while the digits of a text are taken one by one
attribute [local irreducible] digitValue?

/-- One character is a digit, or there is none. -/
lemma leadingDigits_singleton :
    leadingDigits [c] =
      match digitValue? c with
      | some d => ([d], [])
      | none => ([], [c]) := rfl

/-- Digits may have an underscore between them. -/
lemma leadingDigits_cons_cons {next : Char} :
    leadingDigits (c :: next :: s) =
      match digitValue? c with
      | none => ([], c :: next :: s)
      | some d =>
        if next = '_' then
          match leadingDigits s with
          | ([], _) => ([d], next :: s)
          | (ds, left) => (d :: ds, left)
        else
          let (ds, left) := leadingDigits (next :: s)
          (d :: ds, left) := rfl

/-- Where no digit stands, there are none to lead. -/
lemma leadingDigits_of_none (hd : digitValue? c = none) : leadingDigits (c :: s) = ([], c :: s) := by
  cases s with
  | nil => rw [leadingDigits_singleton, hd]
  | cons next s => rw [leadingDigits_cons_cons, hd]

/-- A digit before anything but an underscore is followed by the other digits. -/
lemma leadingDigits_cons {next : Char} {d : Nat} (hd : digitValue? c = some d)
    (hnext : next ≠ '_') :
    leadingDigits (c :: next :: s) =
      (d :: (leadingDigits (next :: s)).1, (leadingDigits (next :: s)).2) := by
  rw [leadingDigits_cons_cons, hd]
  exact if_neg hnext

end

/-- Digits are all read. -/
lemma leadingDigits_digits (h : ∀ c ∈ s, isDigit c = true) :
    leadingDigits s = (s.filterMap digitValue?, []) := by
  induction s with
  | nil => rfl
  | cons c rest ih =>
    obtain ⟨hc, hrest⟩ := List.forall_mem_cons.mp h
    obtain ⟨d, hd⟩ := exists_digitValue? hc
    rw [List.filterMap_cons_some hd]
    cases rest with
    | nil =>
      rw [leadingDigits_singleton, hd]
      rfl
    | cons next rest =>
      have hnext : next ≠ '_' :=
        ne_of_isDigit (hrest next List.mem_cons_self) (by decide)
      rw [leadingDigits_cons hd hnext, ih hrest]

/-- There are as many values as digits. -/
lemma length_filterMap_digitValue? (h : ∀ c ∈ s, isDigit c = true) :
    (s.filterMap digitValue?).length = s.length := by
  rw [List.filterMap_length_eq_length]
  intro c hc
  obtain ⟨d, hd⟩ := exists_digitValue? (h c hc)
  rw [hd]
  rfl

/-- A text without blanks and signs is read digit by digit. -/
lemma readWhole_unsigned (hblank : ∀ c ∈ s, isNumeralBlank c = false)
    (hsign : ∀ c ∈ s, c ≠ '-' ∧ c ≠ '+') : readWhole s = Int.ofNat <$> readNatural s s := by
  rw [readWhole, trimWhile_eq_self hblank]
  split
  case h_1 => exact absurd rfl (hsign '-' List.mem_cons_self).1
  case h_2 => exact absurd rfl (hsign '+' List.mem_cons_self).2
  case h_3 => rfl

/-- What digits alone are read as. -/
lemma readWhole_digits_eq (hne : s ≠ []) (h : ∀ c ∈ s, isDigit c = true) :
    readWhole s = if numeralLimit < s.length then .error (.tooLong s.length)
      else .ok (ofDigitValues (s.filterMap digitValue?) : Nat) := by
  have hblank : ∀ c ∈ s, isNumeralBlank c = false := by
    intro c hc
    rw [isNumeralBlank, not_isBlank_of_isDigit (h c hc), Bool.false_and]
  have hsign : ∀ c ∈ s, c ≠ '-' ∧ c ≠ '+' := fun c hc =>
    ⟨ne_of_isDigit (h c hc) (by decide), ne_of_isDigit (h c hc) (by decide)⟩
  have hsome : (s.filterMap digitValue?).isEmpty = false := by
    rw [List.isEmpty_eq_false_iff, ← List.length_pos_iff, length_filterMap_digitValue? h]
    exact List.length_pos_iff.mpr hne
  have hnatural : readNatural s s = if numeralLimit < s.length then .error (.tooLong s.length)
      else .ok (ofDigitValues (s.filterMap digitValue?)) := by
    rw [readNatural, leadingDigits_digits h]
    simp [hsome, length_filterMap_digitValue? h]
  rw [readWhole_unsigned hblank hsign, hnatural]
  split <;> rfl

/-- Digits alone are a number, unless there are too many of them. -/
theorem readWhole_digits (hne : s ≠ []) (h : ∀ c ∈ s, isDigit c = true) :
    (s.length ≤ numeralLimit ∧ ∃ n, readWhole s = .ok n) ∨
      numeralLimit < s.length ∧ readWhole s = .error (.tooLong s.length) := by
  rw [readWhole_digits_eq hne h]
  split
  case isTrue hlimit => exact .inr ⟨hlimit, rfl⟩
  case isFalse hlimit => exact .inl ⟨Nat.le_of_not_lt hlimit, _, rfl⟩

/-- What has been read to its end consists of digits, and of underscores. -/
lemma forall_isDigit_of_leadingDigits (hs : '_' ∉ s) (h : (leadingDigits s).2 = []) :
    ∀ c ∈ s, isDigit c = true := by
  induction s with
  | nil => exact fun c hc => absurd hc List.not_mem_nil
  | cons c rest ih =>
    cases hd : digitValue? c with
    | none =>
      rw [leadingDigits_of_none hd] at h
      exact absurd h (List.cons_ne_nil c rest)
    | some d =>
      refine List.forall_mem_cons.mpr ⟨isDigit_of_digitValue? hd, ?_⟩
      cases rest with
      | nil => exact fun c hc => absurd hc List.not_mem_nil
      | cons next rest =>
        have hnext : next ≠ '_' := fun heq =>
          hs (List.mem_cons_of_mem c (heq ▸ List.mem_cons_self))
        rw [leadingDigits_cons hd hnext] at h
        exact ih (fun hmem => hs (List.mem_cons_of_mem c hmem)) h

/-- A text without blanks, signs and underscores is a number if and only if it consists of digits, and
of not too many of them. -/
theorem exists_readWhole_iff (hne : s ≠ []) (hblank : ∀ c ∈ s, isNumeralBlank c = false)
    (hsign : ∀ c ∈ s, c ≠ '-' ∧ c ≠ '+') (hs : '_' ∉ s) :
    (∃ n, readWhole s = .ok n) ↔ (∀ c ∈ s, isDigit c = true) ∧ s.length ≤ numeralLimit := by
  constructor
  · rintro ⟨n, hn⟩
    have hleft : (leadingDigits s).2 = [] := by
      rw [readWhole_unsigned hblank hsign, readNatural] at hn
      dsimp only at hn
      split at hn
      · exact absurd hn nofun
      split at hn
      · exact absurd hn nofun
      split at hn
      · exact absurd hn nofun
      case isFalse hrest => simpa using hrest
    have hdigits := forall_isDigit_of_leadingDigits hs hleft
    obtain ⟨hlimit, -⟩ | ⟨-, herror⟩ := readWhole_digits hne hdigits
    · exact ⟨hdigits, hlimit⟩
    · rw [herror] at hn
      exact absurd hn nofun
  · rintro ⟨hdigits, hlimit⟩
    obtain ⟨-, hread⟩ | ⟨hlong, -⟩ := readWhole_digits hne hdigits
    · exact hread
    · exact absurd hlimit (Nat.not_le_of_lt hlong)

/-! ## Decimal numerals -/

/-- The character of a digit has the value of the digit. -/
lemma digitValue?_digitChar {d : Nat} (h : d < 10) : digitValue? (Nat.digitChar d) = some d := by
  have hall : ∀ d < 10, digitValue? (Nat.digitChar d) = some d := by decide +kernel
  exact hall d h

/-- The decimal digits of a number are digits. -/
lemma isDigit_of_mem_toDigits {n : Nat} (h : c ∈ Nat.toDigits 10 n) : isDigit c = true := by
  induction n using Nat.strong_induction_on with
  | _ n ih =>
    rw [Nat.toDigits_eq_if (by decide)] at h
    split at h
    case isTrue hlt =>
      rw [List.mem_singleton] at h
      exact isDigit_of_digitValue? (h ▸ digitValue?_digitChar hlt)
    case isFalse hge =>
      obtain h | h := List.mem_append.mp h
      · exact ih (n / 10) (by omega) h
      · rw [List.mem_singleton] at h
        exact isDigit_of_digitValue? (h ▸ digitValue?_digitChar (Nat.mod_lt n (by decide)))

/-- The digits of a number write the number. -/
lemma ofDigitValues_toDigits (n : Nat) : ofDigitValues ((Nat.toDigits 10 n).filterMap digitValue?) = n := by
  induction n using Nat.strong_induction_on with
  | _ n ih =>
    rw [Nat.toDigits_eq_if (by decide)]
    split
    case isTrue hlt =>
      rw [List.filterMap_cons_some (digitValue?_digitChar hlt)]
      exact Nat.zero_add n
    case isFalse hge =>
      have hlast := ih (n / 10) (by omega)
      rw [List.filterMap_append, List.filterMap_cons_some (digitValue?_digitChar (Nat.mod_lt n (by decide))),
        List.filterMap_nil]
      unfold ofDigitValues at hlast ⊢
      rw [List.foldl_append, hlast, List.foldl_cons, List.foldl_nil, Nat.mul_comm, Nat.div_add_mod]

/-- A number is read back from its digits. -/
theorem readWhole_toDigits {n : Nat} (h : (Nat.toDigits 10 n).length ≤ numeralLimit) :
    readWhole (Nat.toDigits 10 n) = .ok n := by
  have hne : Nat.toDigits 10 n ≠ [] := Nat.toDigits_ne_nil
  rw [readWhole_digits_eq hne fun c => isDigit_of_mem_toDigits, if_neg (Nat.not_lt.mpr h),
    ofDigitValues_toDigits]

end Diagnosis.Text
