import Diagnosis.Lint.Rule.Quotes
import Diagnosis.Pattern.Read
import Mathlib.Data.List.Basic

/-!
# String literals and their values

A string literal of JavaScript as the language defines it, independent of any rule: what may stand
between its quotes (`IsBody`), and the string that it stands for (`value?`), in UTF-16 code units.

A backslash and what belongs to it is read by `escape?`. In sloppy code there are also octal escapes;
templates never have them. A body with an escape that is none of the language stands for nothing.

A `Literal` is a string between quotes, which may be those of a template, on one line apart from escaped
line ends. A `Template` is any template without substitutions.
-/

namespace Diagnosis.JavaScript

open Diagnosis.Lint (QuoteStyle)
open Diagnosis.Pattern (isAsciiDigit isOctalDigit isHexDigit numberIn)

/-! ## Code units -/

/-- The largest code point. -/
def maxCodePoint : Nat := 0x10FFFF

/-- The code units of a code point. -/
def utf16 (n : Nat) : List UInt16 :=
  if n < 0x10000 then [.ofNat n]
  else [.ofNat (0xD800 + (n - 0x10000) / 0x400), .ofNat (0xDC00 + (n - 0x10000) % 0x400)]

/-! ## Escapes -/

/-- What is left behind a character, if that is the next one. -/
def after? (k : Char) : List Char → Option (List Char)
  | [] => none
  | c :: rest => if c = k then some rest else none

/-- The code point that exactly so many hexadecimal digits write. -/
def hexEscape? (n : Nat) (s : List Char) : Option (List UInt16 × List Char) :=
  let digits := (s.takeWhile isHexDigit).take n
  if digits.length = n then some (utf16 (numberIn 16 digits), s.drop n) else none

/-- The code point that hexadecimal digits in braces write, behind the opening brace. -/
def bracedEscape? (s : List Char) : Option (List UInt16 × List Char) :=
  let digits := s.takeWhile isHexDigit
  if digits = [] ∨ maxCodePoint < numberIn 16 digits then none
  else (after? '\x7d' (s.drop digits.length)).map (utf16 (numberIn 16 digits), ·)

/-- The code unit that octal digits write, of which there are at most three. -/
def octalEscape (c : Char) (s : List Char) : List UInt16 × List Char :=
  let more := (s.takeWhile isOctalDigit).take (if c ≤ '3' then 2 else 1)
  (utf16 (numberIn 8 (c :: more)), s.drop more.length)

/-- What a backslash in front of a digit stands for: zero if no other digit follows, otherwise an octal
number or the digit itself, if that is allowed. -/
def digitEscape? (legacy : Bool) (c : Char) (s : List Char) : Option (List UInt16 × List Char) :=
  if c = '0' ∧ s.takeWhile isAsciiDigit = [] then some ([0], s)
  else if !legacy then none
  else if isOctalDigit c then some (octalEscape c s)
  else some (utf16 c.toNat, s)

/-- What a backslash in front of one character stands for: a control that has a letter, nothing at the
end of a line, otherwise the character itself. -/
def charEscape (c : Char) : List UInt16 :=
  match c with
  | 'b' => [8]
  | 't' => [9]
  | 'n' => [10]
  | 'v' => [11]
  | 'f' => [12]
  | 'r' => [13]
  | '\n' | '\u2028' | '\u2029' => []
  | c => utf16 c.toNat

/-- What a backslash in front of a character stands for, and what is left behind it; none if that is no
escape. -/
def escape? (legacy : Bool) (c : Char) (s : List Char) : Option (List UInt16 × List Char) :=
  if c = 'x' then hexEscape? 2 s
  else if c = 'u' then
    match after? '\x7b' s with
    | some braced => bracedEscape? braced
    | none => hexEscape? 4 s
  else if isAsciiDigit c then digitEscape? legacy c s
  else if c = '\r' then some ([], (after? '\n' s).getD s)
  else some (charEscape c, s)

/-- What comes behind a character is how the text ends. -/
lemma after?_suffix {k : Char} {s left : List Char} (h : after? k s = some left) : left <:+ s := by
  cases s with
  | nil => cases h
  | cons c rest =>
    rw [after?] at h
    split at h
    · exact Option.some.inj h ▸ List.suffix_cons c rest
    · cases h

/-- What comes behind a hexadecimal escape is how the text ends. -/
lemma hexEscape?_suffix {n : Nat} {s : List Char} {r : List UInt16 × List Char}
    (h : hexEscape? n s = some r) : r.2 <:+ s := by
  unfold hexEscape? at h
  dsimp only at h
  split at h
  · exact Option.some.inj h ▸ List.drop_suffix n s
  · exact absurd h nofun

/-- An escape leaves an end of the text. -/
lemma escape?_suffix {legacy : Bool} {c : Char} {s : List Char} {r : List UInt16 × List Char}
    (h : escape? legacy c s = some r) : r.2 <:+ s := by
  unfold escape? at h
  split_ifs at h
  · exact hexEscape?_suffix h
  · split at h
    case h_1 braced hbraced =>
      refine List.IsSuffix.trans ?_ (after?_suffix hbraced)
      unfold bracedEscape? at h
      dsimp only at h
      split at h
      · exact absurd h nofun
      · obtain ⟨left, hleft, rfl⟩ := Option.map_eq_some_iff.mp h
        exact (after?_suffix hleft).trans (List.drop_suffix _ braced)
    case h_2 => exact hexEscape?_suffix h
  · unfold digitEscape? at h
    split_ifs at h
    · exact Option.some.inj h ▸ List.suffix_rfl
    · exact Option.some.inj h ▸ List.drop_suffix _ s
    · exact Option.some.inj h ▸ List.suffix_rfl
  · obtain rfl := Option.some.inj h
    cases hfeed : after? '\n' s with
    | none => exact List.suffix_rfl
    | some left => exact after?_suffix hfeed
  · exact Option.some.inj h ▸ List.suffix_rfl

/-- A quote may always have a backslash in front. -/
lemma escape?_char (q : QuoteStyle) (legacy : Bool) (s : List Char) :
    escape? legacy q.char s = some (utf16 q.char.toNat, s) := by
  cases q <;> rfl

/-! ## Values -/

/-- The string that the body of a literal stands for; none if one of its escapes is none of the
language. -/
def value? (legacy : Bool) (body : List Char) : Option (List UInt16) :=
  match body with
  | [] => some []
  | '\\' :: c :: rest =>
    match _hread : escape? legacy c rest with
    | none => none
    | some (units, left) => (value? legacy left).map (units ++ ·)
  | ['\\'] => none
  | c :: rest => (value? legacy rest).map (utf16 c.toNat ++ ·)
termination_by body.length
decreasing_by
  · have hle : left.length ≤ rest.length := (escape?_suffix _hread).length_le
    simp only [List.length_cons]
    omega
  · exact Nat.lt_succ_self _

/-- The empty literal has the empty value. -/
lemma value?_nil (legacy : Bool) : value? legacy [] = some [] := by
  rw [value?]

/-- A lone backslash has no value. -/
lemma value?_lone (legacy : Bool) : value? legacy ['\\'] = none := by
  rw [value?]

/-- An escape sequence has its own value, and the rest its own. -/
lemma value?_backslash (legacy : Bool) (c : Char) (rest : List Char) :
    value? legacy ('\\' :: c :: rest) =
      (escape? legacy c rest).bind fun r => (value? legacy r.2).map (r.1 ++ ·) := by
  rw [value?]
  split
  case h_1 h => rw [h, Option.bind_none]
  case h_2 h => rw [h, Option.bind_some]

/-- Any other character stands for its UTF-16 code units. -/
lemma value?_cons {c : Char} (hc : c ≠ '\\') (legacy : Bool) (rest : List Char) :
    value? legacy (c :: rest) = (value? legacy rest).map (utf16 c.toNat ++ ·) :=
  value?.eq_4 legacy c rest (fun _ _ h => absurd h hc) fun h => absurd h hc

/-! ## Escapes in sloppy code -/

/-- An escape sequence of a digit that is allowed everywhere means the same where octal ones are allowed too.
-/
lemma digitEscape?_legacy {c : Char} {s : List Char} {r : List UInt16 × List Char}
    (h : digitEscape? false c s = some r) (legacy : Bool) : digitEscape? legacy c s = some r := by
  unfold digitEscape? at h ⊢
  split at h
  case isTrue hzero => rwa [if_pos hzero]
  case isFalse => exact absurd h nofun

/-- Escapes that are allowed everywhere mean the same where octal escapes are allowed too. -/
lemma escape?_legacy {c : Char} {s : List Char} {r : List UInt16 × List Char}
    (h : escape? false c s = some r) (legacy : Bool) : escape? legacy c s = some r := by
  unfold escape? at h ⊢
  split_ifs at h ⊢ with hx hu hdigit hreturn
  · exact h
  · exact h
  · exact digitEscape?_legacy h legacy
  · exact h
  · exact h

/-- So do bodies with no other escapes. -/
lemma value?_legacy {body : List Char} {units : List UInt16} (h : value? false body = some units)
    (legacy : Bool) : value? legacy body = some units := by
  fun_induction value? false body generalizing units with
  | case1 => rwa [value?_nil]
  | case2 c rest hnone => exact absurd h nofun
  | case3 c rest units' left hsome ih =>
    obtain ⟨more, hmore, rfl⟩ := Option.map_eq_some_iff.mp h
    rw [value?_backslash, escape?_legacy hsome, Option.bind_some, ih hmore, Option.map_some]
  | case4 => exact absurd h nofun
  | case5 c rest hpair hlone ih =>
    obtain ⟨more, hmore, rfl⟩ := Option.map_eq_some_iff.mp h
    rw [value?.eq_4 legacy c rest hpair hlone, ih hmore, Option.map_some]

/-! ## Literals -/

/-- What may stand between quotes: no such quote and no line end, unless a backslash stands in front, and
no backslash without a character behind it. In a template there is no line end at all, and no
substitution. -/
inductive IsBody (q : QuoteStyle) : List Char → Prop
  | nil : IsBody q []
  | plain {c : Char} {rest : List Char} : c ≠ q.char → c ≠ '\\' → c ≠ '\n' → c ≠ '\r' →
      (q = .backtick → ¬ (c = '$' ∧ rest.head? = some '\x7b')) → IsBody q rest → IsBody q (c :: rest)
  | escape {c : Char} {rest : List Char} : (q = .backtick → c ≠ '\n' ∧ c ≠ '\r') → IsBody q rest →
      IsBody q ('\\' :: c :: rest)
  | lineEnd {rest : List Char} : q ≠ .backtick → IsBody q rest → IsBody q ('\\' :: '\r' :: '\n' :: rest)

/-- A string literal, or a template that is nothing but a string. -/
structure Literal where
  /-- The quotes. -/
  quote : QuoteStyle
  /-- What stands between them. -/
  body : List Char
  isBody : IsBody quote body
  /-- Templates have legal escapes only. -/
  isLegal : quote = .backtick → (value? false body).isSome

namespace Literal

/-- The literal as it is written. -/
def text (l : Literal) : List Char := l.quote.char :: l.body ++ [l.quote.char]

/-- The string that a literal stands for, in sloppy or in strict code. -/
def value? (l : Literal) (sloppy : Bool) : Option (List UInt16) :=
  JavaScript.value? (sloppy && l.quote != .backtick) l.body

end Literal

/-! ## Templates -/

/-- What may stand between the quotes of a template without substitutions: no such quote and no opening of
a substitution, unless a backslash stands in front, and no backslash without a character behind it. Line
feeds may stand as they are; a carriage return would be read as a line feed, so it stands behind a
backslash only. -/
inductive IsTemplateBody : List Char → Prop
  | nil : IsTemplateBody []
  | plain {c : Char} {rest : List Char} : c ≠ QuoteStyle.backtick.char → c ≠ '\\' → c ≠ '\r' →
      ¬ (c = '$' ∧ rest.head? = some '\x7b') → IsTemplateBody rest → IsTemplateBody (c :: rest)
  | escape {c : Char} {rest : List Char} : IsTemplateBody rest → IsTemplateBody ('\\' :: c :: rest)

/-- A template without substitutions. -/
structure Template where
  /-- What stands between its quotes. -/
  body : List Char
  isBody : IsTemplateBody body

namespace Template

/-- The template as it is written. -/
def text (t : Template) : List Char :=
  QuoteStyle.backtick.char :: t.body ++ [QuoteStyle.backtick.char]

/-- The string that a template stands for; none if one of its escapes is not legal in templates. -/
def value? (t : Template) : Option (List UInt16) := JavaScript.value? false t.body

end Template

/-! ## Octal escapes -/

/-- A backslash in front of a digit other than zero is no escape where octal escapes are not allowed. -/
lemma value?_digit {c : Char} (hdigit : isAsciiDigit c = true) (hzero : c ≠ '0') (rest : List Char) :
    value? false ('\\' :: c :: rest) = none := by
  have hother : c ≠ 'x' ∧ c ≠ 'u' := by
    constructor <;> rintro rfl <;> exact absurd hdigit (by decide)
  have hnone : escape? false c rest = none := by
    unfold escape? digitEscape?
    rw [if_neg hother.1, if_neg hother.2, if_pos hdigit, if_neg fun h => hzero h.1]
    rfl
  rw [value?_backslash, hnone, Option.bind_none]

end Diagnosis.JavaScript
