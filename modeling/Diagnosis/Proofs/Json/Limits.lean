import Diagnosis.Json.Display
import Diagnosis.Proofs.Steps
import Diagnosis.Proofs.Text.Numeral

/-!
# What the limits of the reader mean for a text, and those of messages for a value

The reader gives up on a text that is no JSON, but also on JSON whose numbers are too long or whose
values nest too deep. The two limits show in the text itself: where the reader misses one of them,
the text holds that many digits in a row, or that many opening brackets.

A reader of a part leaves a suffix of its text or stops for a cause in its text (`Stays`). The readers
of values, items and fields call each other, so this is one induction on the fuel that they share
(`stays_readers`).

* **The limits show** (`hasRun_of_readNested`, `lt_countP_of_readNested`): for every text and every depth.
* **The limits hold** (`read_numericObject`, `readNested_openings`): a number of more digits is refused,
  and so are more opening brackets in a row.

A value that a message quotes meets the same two limits. If its numbers can be written, it cannot be
quoted if and only if it is nested deeper than values may nest (`quoteFault?_of_isWritable`).
-/

namespace Diagnosis.Json

open Diagnosis.Text

variable {α β : Type} {depth fuel : Nat} {c : Char} {s t rest : List Char}

/-! ## Causes -/

/-- Whether a character opens a value in which others nest. -/
def isOpening (c : Char) : Bool := c = '[' || c = '{'

/-- What a fault that misses a limit says of the text in which it arises. -/
def Stop.HasCause (depth : Nat) (s : List Char) : Stop → Prop
  | .malformed .. => True
  | .tooManyDigits n => numeralLimit < n ∧ HasRun Char.isDigit n s
  | .tooDeep => depth < s.countP isOpening

/-- What stops at the end of a text has its cause in the text. -/
lemma Stop.HasCause.of_suffix {stop : Stop} (h : stop.HasCause depth t) (ht : t <:+ s) :
    stop.HasCause depth s := by
  cases stop with
  | malformed => trivial
  | tooManyDigits n => exact ⟨h.1, h.2.of_isInfix ht.isInfix⟩
  | tooDeep => exact Nat.lt_of_lt_of_le h (ht.sublist.countP_le)

/-- Inside a value there is room for one level less. -/
lemma Stop.HasCause.of_inside {stop : Stop} (h : stop.HasCause depth t) (hc : isOpening c = true)
    (ht : t <:+ rest) : stop.HasCause (depth + 1) (c :: rest) := by
  cases stop with
  | malformed => trivial
  | tooManyDigits n =>
    exact ⟨h.1, h.2.of_isInfix (ht.trans (List.suffix_cons c rest)).isInfix⟩
  | tooDeep =>
    have hrest : depth < rest.countP isOpening := Nat.lt_of_lt_of_le h (ht.sublist.countP_le)
    change depth + 1 < (c :: rest).countP isOpening
    rw [List.countP_cons_of_pos hc]
    exact Nat.succ_lt_succ hrest

/-! ## Readers of parts -/

/-- Whether what a reader gives comes from a text: it leaves a suffix of the text, or misses a limit
for a cause in the text. -/
def Stays (depth : Nat) (s : List Char) : Except Stop (α × List Char) → Prop
  | .ok (_, rest) => rest <:+ s
  | .error stop => stop.HasCause depth s

/-- A reader that stays in the end of a text stays in the text. -/
lemma Stays.of_suffix {r : Except Stop (α × List Char)} (h : Stays depth t r) (ht : t <:+ s) :
    Stays depth s r := by
  cases r with
  | ok p => exact List.IsSuffix.trans h ht
  | error stop => exact Stop.HasCause.of_suffix h ht

/-- A reader that stays inside a bracket stays in the text with the bracket, one level further down. -/
lemma Stays.of_inside {r : Except Stop (α × List Char)} (h : Stays depth t r)
    (hc : isOpening c = true) (ht : t <:+ rest) : Stays (depth + 1) (c :: rest) r := by
  cases r with
  | ok p => exact List.IsSuffix.trans h (ht.trans (List.suffix_cons c rest))
  | error stop => exact Stop.HasCause.of_inside h hc ht

/-- One reader after the other. -/
lemma Stays.bind {x : Except Stop (α × List Char)}
    {f : α × List Char → Except Stop (β × List Char)} (hx : Stays depth s x)
    (hf : ∀ a rest, rest <:+ s → Stays depth s (f (a, rest))) : Stays depth s (x >>= f) := by
  cases x with
  | ok p => exact hf p.1 p.2 hx
  | error stop => exact hx

/-- What comes behind space is how the text ends. -/
lemma suffix_skipSpace (s : List Char) : skipSpace s <:+ s := List.dropWhile_suffix _

/-! ## Strings -/

/-- What comes behind four hexadecimal digits is how the text ends. -/
lemma suffix_of_hex4? {n : Nat} (h : hex4? s = some (n, rest)) : rest <:+ s := by
  unfold hex4? at h
  split at h
  case h_1 a b c d rest' =>
    simp only [Option.bind_eq_bind, Option.bind_eq_some_iff, Option.pure_def, Option.some.injEq,
      Prod.mk.injEq] at h
    obtain ⟨-, -, -, -, -, -, -, -, -, rfl⟩ := h
    exact ⟨[a, b, c, d], rfl⟩
  case h_2 => exact absurd h nofun

/-- The reader of the second half of a surrogate pair stays in the text. -/
lemma stays_readPartner (high : Nat) (s : List Char) : Stays depth s (readPartner high s) := by
  unfold readPartner
  split
  case h_1 more =>
    split
    · split
      case h_1 => trivial
      case h_2 low after hmore =>
        split
        · exact (suffix_of_hex4? hmore).trans (List.suffix_append ['\\', 'u'] more)
        · exact List.suffix_rfl
    · exact List.suffix_rfl
  case h_2 => exact List.suffix_rfl

/-- The reader of an escape sequence stays in the text. -/
lemma stays_readEscape (quote : Nat) (atSlash s : List Char) :
    Stays depth s (readEscape quote atSlash s) := by
  unfold readEscape
  split
  case h_1 => trivial
  case h_2 digits =>
    split
    · trivial
    · split
      case h_1 => trivial
      case h_2 n rest hdigits =>
        exact (stays_readPartner n rest).of_suffix
          ((suffix_of_hex4? hdigits).trans (List.suffix_cons 'u' digits))
  case h_3 c rest _ =>
    split
    · exact List.suffix_cons c rest
    · trivial

/-- The reader of what stands between quotes stays in the text. -/
lemma stays_readStringBody (fuel quote : Nat) (s : List Char) :
    Stays depth s (readStringBody fuel quote s) := by
  induction fuel generalizing s with
  | zero => trivial
  | succ fuel ih =>
    unfold readStringBody
    split
    case h_1 => trivial
    case h_2 rest => exact List.suffix_cons '"' rest
    case h_3 rest =>
      have hescape : Stays depth ('\\' :: rest) (readEscape quote ('\\' :: rest) rest) :=
        (stays_readEscape quote _ rest).of_suffix (List.suffix_cons '\\' rest)
      refine hescape.bind fun n rest' hrest => ?_
      exact ((ih rest').of_suffix hrest).bind fun ns rest'' hrest => hrest
    case h_4 c rest _ _ =>
      split
      · trivial
      · exact ((ih rest).of_suffix (List.suffix_cons c rest)).bind fun ns rest' hrest => hrest

/-- The reader of strings stays in the text. -/
lemma stays_readString (s : List Char) : Stays depth s (readString s) :=
  (stays_readStringBody s.length s.length s.tail).of_suffix (List.tail_suffix s)

/-! ## Numbers -/

/-- The digits before the point stand at the front of a text. -/
lemma wholeDigits_spec (s : List Char) :
    (wholeDigits s).1 ++ (wholeDigits s).2 = s ∧ ∀ c ∈ (wholeDigits s).1, c.isDigit = true := by
  unfold wholeDigits
  split
  · exact ⟨rfl, List.forall_mem_singleton.mpr rfl⟩
  · exact ⟨List.takeWhile_append_dropWhile, List.all_eq_true.mp List.all_takeWhile⟩

/-- What comes behind a fraction is how the text ends. -/
lemma suffix_readFraction (s : List Char) : (readFraction s).2 <:+ s := by
  unfold readFraction
  split
  · split
    · exact List.suffix_rfl
    · exact (List.dropWhile_suffix _).trans (List.suffix_cons _ _)
  · exact List.suffix_rfl

/-- What comes behind digits with a sign is how the text ends. -/
lemma suffix_signedDigits (s : List Char) : (signedDigits s).2.2 <:+ s := by
  unfold signedDigits
  split
  · exact (List.dropWhile_suffix _).trans (List.suffix_cons _ _)
  · exact (List.dropWhile_suffix _).trans (List.suffix_cons _ _)
  · exact List.dropWhile_suffix _

/-- What comes behind an exponent is how the text ends. -/
lemma suffix_readExponent (s : List Char) : (readExponent s).2 <:+ s := by
  unfold readExponent
  split
  case h_1 c rest =>
    split
    · split
      · exact List.suffix_rfl
      case h_2 negative ds rest' _ hsigned =>
        have hrest := suffix_signedDigits rest
        rw [hsigned] at hrest
        exact hrest.trans (List.suffix_cons c rest)
    · exact List.suffix_rfl
  case h_2 => exact List.suffix_rfl

/-- The reader of numbers stays in the text. -/
lemma stays_readNumber (negative : Bool) (start s : List Char) :
    Stays depth s (readNumber negative start s) := by
  obtain ⟨happend, hdigits⟩ := wholeDigits_spec s
  unfold readNumber
  split
  case h_1 => trivial
  case h_2 whole rest _ hwhole =>
    rw [hwhole] at happend hdigits
    have hrest : (readExponent (readFraction rest).2).2 <:+ s :=
      ((suffix_readExponent _).trans (suffix_readFraction rest)).trans ⟨whole, happend⟩
    dsimp only
    split
    · split
      · exact ⟨‹_›, whole, ⟨[], rest, happend⟩, rfl, hdigits⟩
      · exact hrest
    · exact hrest

/-! ## Values -/

/-- What comes behind a literal is how the text ends. -/
lemma suffix_of_readLiteral? {v : Json} (h : readLiteral? s = some (v, rest)) : rest <:+ s := by
  obtain ⟨⟨word, w⟩, -, hword⟩ := List.exists_of_findSome?_eq_some h
  obtain ⟨after, hafter, heq⟩ := Option.map_eq_some_iff.mp hword
  unfold afterWord? at hafter
  split at hafter
  · obtain rfl := (Prod.mk.inj heq).2
    obtain rfl := Option.some.inj hafter
    exact List.drop_suffix _ _
  · exact absurd hafter nofun

/-- The reader of values without parts stays in the text. -/
lemma stays_readAtom (s : List Char) : Stays depth s (readAtom s) := by
  unfold readAtom
  split
  case h_1 r hr => exact suffix_of_readLiteral? hr
  case h_2 =>
    split
    case h_1 _ rest _ =>
      exact (stays_readNumber true _ rest).of_suffix (List.suffix_cons '-' rest)
    case h_2 => exact stays_readNumber false s s

/-- The reader of values stays in the text if those of items and fields do. -/
lemma stays_readValue (hitems : ∀ depth s, Stays depth s (readItems fuel depth s))
    (hfields : ∀ depth s, Stays depth s (readFields fuel depth s)) (depth : Nat) (s : List Char) :
    Stays depth s (readValue (fuel + 1) depth s) := by
  unfold readValue
  split
  case h_1 => trivial
  case h_2 rest => exact List.countP_pos_iff.mpr ⟨'{', List.mem_cons_self, rfl⟩
  case h_3 rest => exact List.countP_pos_iff.mpr ⟨'[', List.mem_cons_self, rfl⟩
  case h_4 _ depth rest hfuel =>
    obtain rfl := Nat.succ.inj hfuel
    have hspace := suffix_skipSpace rest
    split
    case h_1 rest' hrest =>
      rw [hrest] at hspace
      exact ((List.suffix_cons '}' rest').trans hspace).trans (List.suffix_cons '{' rest)
    case h_2 =>
      exact ((hfields depth _).of_inside rfl hspace).bind fun _ _ hrest => hrest
  case h_5 _ depth rest hfuel =>
    obtain rfl := Nat.succ.inj hfuel
    have hspace := suffix_skipSpace rest
    split
    case h_1 rest' hrest =>
      rw [hrest] at hspace
      exact ((List.suffix_cons ']' rest').trans hspace).trans (List.suffix_cons '[' rest)
    case h_2 =>
      exact ((hitems depth _).of_inside rfl hspace).bind fun _ _ hrest => hrest
  case h_6 => exact (stays_readString _).bind fun _ _ hrest => hrest
  case h_7 => exact stays_readAtom _

/-- The reader of items stays in the text if those of values and of further items do. -/
lemma stays_readItems (hvalue : ∀ depth s, Stays depth s (readValue fuel depth s))
    (hitems : ∀ depth s, Stays depth s (readItems fuel depth s)) (depth : Nat) (s : List Char) :
    Stays depth s (readItems (fuel + 1) depth s) := by
  unfold readItems
  refine (hvalue depth s).bind fun v rest hrest => ?_
  have hspace := (suffix_skipSpace rest).trans hrest
  dsimp only
  split
  case h_1 rest' hnext =>
    rw [hnext] at hspace
    exact (List.suffix_cons ']' rest').trans hspace
  case h_2 rest' hnext =>
    rw [hnext] at hspace
    have hrest' : skipSpace rest' <:+ s :=
      ((suffix_skipSpace rest').trans (List.suffix_cons ',' rest')).trans hspace
    exact ((hitems depth _).of_suffix hrest').bind fun _ _ hrest => hrest
  case h_3 => trivial

/-- The reader of fields stays in the text if those of values and of further fields do. -/
lemma stays_readFields (hvalue : ∀ depth s, Stays depth s (readValue fuel depth s))
    (hfields : ∀ depth s, Stays depth s (readFields fuel depth s)) (depth : Nat) (s : List Char) :
    Stays depth s (readFields (fuel + 1) depth s) := by
  unfold readFields
  split
  case h_1 _ _ hfuel =>
    obtain rfl := Nat.succ.inj hfuel
    refine (stays_readString _).bind fun codes rest hrest => ?_
    have hspace := (suffix_skipSpace rest).trans hrest
    dsimp only
    split
    case h_1 rest' hcolon =>
      rw [hcolon] at hspace
      have hrest' := ((suffix_skipSpace rest').trans (List.suffix_cons ':' rest')).trans hspace
      refine ((hvalue depth _).of_suffix hrest').bind fun v rest hrest => ?_
      have hspace := (suffix_skipSpace rest).trans hrest
      dsimp only
      split
      case h_1 rest' hnext =>
        rw [hnext] at hspace
        exact (List.suffix_cons '}' rest').trans hspace
      case h_2 rest' hnext =>
        rw [hnext] at hspace
        have hrest' := ((suffix_skipSpace rest').trans (List.suffix_cons ',' rest')).trans hspace
        exact ((hfields depth _).of_suffix hrest').bind fun _ _ hrest => hrest
      case h_3 => trivial
    case h_2 => trivial
  case h_2 => trivial

/-- Values, items and fields are read from the text, whatever the fuel. -/
theorem stays_readers (fuel : Nat) :
    (∀ depth s, Stays depth s (readValue fuel depth s)) ∧
      (∀ depth s, Stays depth s (readItems fuel depth s)) ∧
        ∀ depth s, Stays depth s (readFields fuel depth s) := by
  induction fuel with
  | zero => exact ⟨fun _ _ => trivial, fun _ _ => trivial, fun _ _ => trivial⟩
  | succ fuel ih =>
    obtain ⟨hvalue, hitems, hfields⟩ := ih
    exact ⟨stays_readValue hitems hfields, stays_readItems hvalue hitems,
      stays_readFields hvalue hfields⟩

/-! ## Texts -/

/-- Whether a fault is one of syntax, and misses no limit. -/
def Fault.IsSyntax : Fault → Prop
  | malformed .. => True
  | tooManyDigits _ => False
  | tooDeep => False

/-- Reading a whole text stops for a cause in the text. -/
lemma hasCause_of_readAll {stop : Stop} (h : readAll depth s = .error stop) :
    stop.HasCause depth s := by
  have hvalue := ((stays_readers (2 * s.length + 2)).1 depth (skipSpace s)).of_suffix
    (suffix_skipSpace s)
  unfold readAll at h
  split at h
  · obtain rfl := Except.error.inj h
    trivial
  · obtain hread | ⟨p, -, hrest⟩ := bind_eq_error_iff.mp h
    · rw [hread] at hvalue
      exact hvalue
    · dsimp only at hrest
      split at hrest
      · cases hrest
      · obtain rfl := Except.error.inj hrest
        trivial

/-- A fault of a whole text is one of its readers. -/
lemma exists_stop_of_readNested {fault : Fault} (h : readNested depth s = .error fault) :
    ∃ stop : Stop, stop.toFault s = fault ∧ stop.HasCause depth s := by
  obtain ⟨stop, hread, hfault⟩ := mapError_eq_error_iff.mp h
  exact ⟨stop, hfault, hasCause_of_readAll hread⟩

/-- **Too long a number.** A text that is refused for the digits of a number holds that many in a row.
-/
theorem hasRun_of_readNested {n : Nat} (h : readNested depth s = .error (.tooManyDigits n)) :
    numeralLimit < n ∧ HasRun Char.isDigit n s := by
  obtain ⟨stop, hstop, hcause⟩ := exists_stop_of_readNested h
  cases stop with
  | malformed => exact absurd hstop nofun
  | tooManyDigits m => exact Fault.tooManyDigits.inj hstop ▸ hcause
  | tooDeep => exact absurd hstop nofun

/-- **Too deep a value.** A text that is refused for its depth holds more opening brackets than values
may nest. -/
theorem lt_countP_of_readNested (h : readNested depth s = .error .tooDeep) :
    depth < s.countP isOpening := by
  obtain ⟨stop, hstop, hcause⟩ := exists_stop_of_readNested h
  cases stop with
  | malformed => exact absurd hstop nofun
  | tooManyDigits => exact absurd hstop nofun
  | tooDeep => exact hcause

/-! ## Texts that miss a limit -/

/-- Digits are different from what is no digit. -/
lemma ne_of_isDigit {d : Char} (hd : d.isDigit = true) (hc : c.isDigit = false) : d ≠ c :=
  fun h => Bool.false_ne_true ((hc.symm.trans (h ▸ rfl)).trans hd)

/-- What begins with a digit is a number. -/
lemma readValue_digit {d : Char} (hd : d.isDigit = true) :
    readValue (fuel + 1) depth (d :: s) = readNumber false (d :: s) (d :: s) := by
  have hne := fun {c : Char} => ne_of_isDigit (c := c) hd
  have hliteral : readLiteral? (d :: s) = none := by
    refine List.findSome?_eq_none_iff.mpr fun p hp => Option.map_eq_none_iff.mpr (if_neg ?_)
    have hword : ∀ p ∈ literals, ∃ c cs, p.1.toList = c :: cs ∧ c.isDigit = false := by
      simp [literals]
    obtain ⟨c, cs, hp, hc⟩ := hword p hp
    rw [hp, List.isPrefixOf_iff_prefix]
    exact fun h => hne hc (List.cons_prefix_cons.mp h).1.symm
  have hatom : readAtom (d :: s) = readNumber false (d :: s) (d :: s) := by
    unfold readAtom
    rw [hliteral]
    dsimp only
    split
    case h_1 h => exact absurd (List.cons.inj h).1 (hne rfl)
    case h_2 => rfl
  unfold readValue
  split
  case h_1 h => exact absurd h nofun
  case h_2 h => exact absurd (List.cons.inj h).1 (hne rfl)
  case h_3 h => exact absurd (List.cons.inj h).1 (hne rfl)
  case h_4 h => exact absurd (List.cons.inj h).1 (hne rfl)
  case h_5 h => exact absurd (List.cons.inj h).1 (hne rfl)
  case h_6 h => exact absurd (List.cons.inj h).1 (hne rfl)
  case h_7 => exact hatom

section Digits

variable {ds : List Char} (hds : ∀ c ∈ ds, c.isDigit = true)
  (hfirst : ds.head? ≠ some '0') (hlength : numeralLimit < ds.length)

include hds in
/-- Digits before something else are taken up to there. -/
lemma takeWhile_digits (hc : c.isDigit = false) :
    (ds ++ c :: rest).takeWhile Char.isDigit = ds ∧
      (ds ++ c :: rest).dropWhile Char.isDigit = c :: rest := by
  rw [List.takeWhile_append_of_pos hds, List.dropWhile_append_of_pos hds,
    List.takeWhile_cons_of_neg (Bool.eq_false_iff.mp hc),
    List.dropWhile_cons_of_neg (Bool.eq_false_iff.mp hc), List.append_nil]
  exact ⟨rfl, rfl⟩

include hds hfirst hlength in
/-- The digits of a number are counted before anything else. -/
lemma readNumber_digits (negative : Bool) (start : List Char) :
    readNumber negative start (ds ++ '}' :: rest) = .error (.tooManyDigits ds.length) := by
  obtain ⟨htake, hdrop⟩ : _ ∧ (ds ++ '}' :: rest).dropWhile Char.isDigit = _ :=
    takeWhile_digits hds rfl
  have hwhole : wholeDigits (ds ++ '}' :: rest) = (ds, '}' :: rest) := by
    unfold wholeDigits
    split
    case h_1 rest' h =>
      cases ds with
      | nil => exact absurd h nofun
      | cons d ds => exact absurd (congrArg some (List.cons.inj h).1) hfirst
    case h_2 => rw [htake, hdrop]
  cases ds with
  | nil => exact absurd hlength (Nat.not_lt_zero _)
  | cons d ds =>
    rw [readNumber, hwhole]
    exact if_pos hlength

include hds hfirst hlength in
/-- A number with too many digits is refused. -/
lemma readValue_digits :
    readValue (fuel + 1) depth (ds ++ '}' :: rest) = .error (.tooManyDigits ds.length) := by
  have hnumber : readNumber false (ds ++ '}' :: rest) (ds ++ '}' :: rest) = _ :=
    readNumber_digits hds hfirst hlength false _
  cases ds with
  | nil => exact absurd hlength (Nat.not_lt_zero _)
  | cons d ds => exact (readValue_digit (hds d List.mem_cons_self)).trans hnumber

/-- An object whose only field is a number. -/
def numericObject (ds : List Char) : List Char := '{' :: '"' :: 'a' :: '"' :: ':' :: (ds ++ ['}'])

include hds hfirst hlength in
/-- **Too long a number is refused.** -/
theorem read_numericObject :
    read (String.ofList (numericObject ds)) = .error (.tooManyDigits ds.length) := by
  have hskip : skipSpace (ds ++ ['}']) = ds ++ ['}'] := by
    cases ds with
    | nil => exact absurd hlength (Nat.not_lt_zero _)
    | cons d ds =>
      refine List.dropWhile_cons_of_neg fun hspace => ?_
      simp only [isSpace, Bool.or_eq_true, decide_eq_true_eq] at hspace
      obtain ((rfl | rfl) | rfl) | rfl := hspace <;> exact absurd (hds _ List.mem_cons_self) nofun
  have hfields : ∀ fuel depth,
      readFields (fuel + 2) depth ('"' :: 'a' :: '"' :: ':' :: (ds ++ ['}'])) =
        .error (.tooManyDigits ds.length) := by
    intro fuel depth
    have hkey : readString ('"' :: 'a' :: '"' :: ':' :: (ds ++ ['}'])) =
        .ok ([97], ':' :: (ds ++ ['}'])) := rfl
    rw [readFields, hkey]
    change (readValue (fuel + 1) depth (skipSpace (ds ++ ['}'])) >>= _) = _
    rw [hskip, readValue_digits hds hfirst hlength]
    rfl
  have hall : readAll defaultNesting (numericObject ds) = .error (.tooManyDigits ds.length) := by
    have hfuel : 2 * (numericObject ds).length + 2 = 2 * (ds ++ ['}']).length + 9 + 3 := by
      simp only [numericObject, List.length_cons]
      omega
    have hobject : readValue (2 * (ds ++ ['}']).length + 9 + 3) defaultNesting
        (skipSpace (numericObject ds)) = .error (.tooManyDigits ds.length) := by
      change (readFields _ 989 _ >>= _) = _
      rw [hfields]
      rfl
    change (readValue (2 * (numericObject ds).length + 2) _ _ >>= _) = _
    rw [hfuel, hobject]
    rfl
  rw [read, String.toList_ofList, readNested, hall]
  rfl

end Digits

/-- A level of nesting costs a bracket and two steps of fuel. -/
lemma readValue_openings (s : List Char) (hfuel : 2 * depth < fuel) :
    readValue fuel depth (List.replicate (depth + 1) '[' ++ s) = .error .tooDeep := by
  induction depth generalizing fuel with
  | zero =>
    obtain ⟨fuel, rfl⟩ := Nat.exists_eq_succ_of_ne_zero (Nat.ne_of_gt hfuel)
    rfl
  | succ depth ih =>
    obtain ⟨fuel, rfl⟩ : ∃ n, fuel = n + 2 := ⟨fuel - 2, by omega⟩
    have hinner : readValue fuel depth _ = _ := ih (by omega)
    change (readItems (fuel + 1) depth (List.replicate (depth + 1) '[' ++ s) >>= _) = _
    rw [readItems, hinner]
    rfl

/-- **Too deep a value is refused**, whatever follows its opening brackets. -/
theorem readNested_openings (depth : Nat) (s : List Char) :
    readNested depth (List.replicate (depth + 1) '[' ++ s) = .error .tooDeep := by
  have hfuel : 2 * depth < 2 * (List.replicate (depth + 1) '[' ++ s).length + 2 := by
    rw [List.length_append, List.length_replicate]
    omega
  have hall : readAll depth (List.replicate (depth + 1) '[' ++ s) = .error .tooDeep := by
    change (readValue _ depth (List.replicate (depth + 1) '[' ++ s) >>= _) = _
    rw [readValue_openings s hfuel]
    rfl
  rw [readNested, hall]
  rfl

/-! ## Values in messages -/

mutual

/-- Whether every whole number in a value has few enough digits to be written. -/
def isWritable : Json → Bool
  | int n => Text.isWritable n.natAbs
  | array items => areWritable items
  | object fields => fieldsAreWritable fields
  | _ => true

/-- Whether this holds of several values. -/
def areWritable : List Json → Bool
  | [] => true
  | v :: vs => isWritable v && areWritable vs

/-- Whether this holds of the values of fields. -/
def fieldsAreWritable : List (String × Json) → Bool
  | [] => true
  | (_, v) :: fields => isWritable v && fieldsAreWritable fields

end

/-- Several values are writable if each of them is. -/
lemma areWritable_iff {vs : List Json} : areWritable vs = true ↔ ∀ v ∈ vs, v.isWritable = true := by
  induction vs with
  | nil => simp [areWritable]
  | cons v vs ih => rw [areWritable, Bool.and_eq_true, ih, List.forall_mem_cons]

mutual

/-- How deep values nest in a value: not at all in a scalar, and in an array or an object one level deeper
than in the deepest of what it holds. -/
def nesting : Json → Nat
  | array items => nestingOfItems items + 1
  | object fields => nestingOfFields fields + 1
  | _ => 0

/-- How deep values nest in the items of an array. -/
def nestingOfItems : List Json → Nat
  | [] => 0
  | v :: vs => max (nesting v) (nestingOfItems vs)

/-- How deep values nest in the values of fields. -/
def nestingOfFields : List (String × Json) → Nat
  | [] => 0
  | (_, v) :: fields => max (nesting v) (nestingOfFields fields)

end

/-- The fault of what is nested to some depth, if only so much is allowed. -/
def depthFault? (allowed nesting : Nat) : Option QuoteFault :=
  if allowed < nesting then some .tooDeep else none

/-- Nothing nests in what is allowed to hold nothing. -/
lemma depthFault?_zero (allowed : Nat) : depthFault? allowed 0 = none := if_neg (Nat.not_lt_zero _)

/-- One level takes one of those that are allowed. -/
lemma depthFault?_succ (allowed nesting : Nat) :
    depthFault? (allowed + 1) (nesting + 1) = depthFault? allowed nesting := by
  simp only [depthFault?, Nat.succ_lt_succ_iff]

/-- Of two values the deeper one decides. -/
lemma depthFault?_max (allowed m n : Nat) :
    (depthFault? allowed m).or (depthFault? allowed n) = depthFault? allowed (max m n) := by
  unfold depthFault?
  by_cases hm : allowed < m
  · rw [if_pos hm, if_pos (Nat.lt_of_lt_of_le hm (Nat.le_max_left m n)), Option.some_or]
  · have hmax : allowed < max m n ↔ allowed < n := by omega
    simp only [hm, hmax, if_false, Option.none_or]

mutual

/-- If the numbers in a value can be written, only its nesting is at fault. -/
lemma faultWithin?_of_isWritable : (v : Json) → (depth : Nat) → v.isWritable = true →
    v.faultWithin? depth = depthFault? depth v.nesting
  | null, _, _ | bool _, _, _ | float _, _, _ | string _, _, _ | illFormed _, _, _ => by
    simp only [faultWithin?, nesting, depthFault?_zero]
  | int n, _, h => by
    rw [isWritable] at h
    simp only [faultWithin?, h, if_true, nesting, depthFault?_zero]
  | array items, 0, _ => by simp [faultWithin?, nesting, depthFault?]
  | object fields, 0, _ => by simp [faultWithin?, nesting, depthFault?]
  | array items, depth + 1, h => by
    rw [isWritable] at h
    rw [nesting, depthFault?_succ, ← faultInItems?_of_areWritable items depth h]
    rfl
  | object fields, depth + 1, h => by
    rw [isWritable] at h
    rw [nesting, depthFault?_succ, ← faultInFields?_of_areWritable fields depth h]
    rfl

/-- The same holds of the items of an array. -/
lemma faultInItems?_of_areWritable : (items : List Json) → (depth : Nat) → areWritable items = true →
    faultInItems? depth items = depthFault? depth (nestingOfItems items)
  | [], _, _ => (depthFault?_zero _).symm
  | v :: vs, depth, h => by
    rw [areWritable, Bool.and_eq_true] at h
    rw [faultInItems?, nestingOfItems, faultWithin?_of_isWritable v depth h.1,
      faultInItems?_of_areWritable vs depth h.2, depthFault?_max]

/-- The same holds of the values of fields. -/
lemma faultInFields?_of_areWritable : (fields : List (String × Json)) → (depth : Nat) →
    fieldsAreWritable fields = true →
    faultInFields? depth fields = depthFault? depth (nestingOfFields fields)
  | [], _, _ => (depthFault?_zero _).symm
  | (_, v) :: fields, depth, h => by
    rw [fieldsAreWritable, Bool.and_eq_true] at h
    rw [faultInFields?, nestingOfFields, faultWithin?_of_isWritable v depth h.1,
      faultInFields?_of_areWritable fields depth h.2, depthFault?_max]

end

/-- **A value that cannot be quoted** is nested too deep, if its numbers can be written. -/
theorem quoteFault?_of_isWritable {v : Json} (h : v.isWritable = true) :
    v.quoteFault? = depthFault? defaultNesting v.nesting :=
  faultWithin?_of_isWritable v defaultNesting h

/-- An empty array in so many others. -/
def nestedArray : Nat → Json
  | 0 => array []
  | n + 1 => array [nestedArray n]

/-- Every array around the empty one is a level. -/
lemma nesting_nestedArray (n : Nat) : (nestedArray n).nesting = n + 1 := by
  induction n with
  | zero => rfl
  | succ n ih => rw [nestedArray, nesting, nestingOfItems, nestingOfItems, ih, Nat.max_zero]

/-- There is no number in nested arrays. -/
lemma isWritable_nestedArray (n : Nat) : (nestedArray n).isWritable = true := by
  induction n with
  | zero => rfl
  | succ n ih => rw [nestedArray, isWritable, areWritable, areWritable, ih, Bool.and_true]

end Diagnosis.Json
