import Diagnosis.Explain.Reply
import Diagnosis.Proofs.Text.Search

/-!
# What is found of an answer

The reply stands somewhere in an answer: in a fenced block, or between the first opening and the last
closing brace. What is read is always a part of the answer (`infix_of_isolate?`).

A fenced block begins with its fence, blanks and a line break (`exists_infix_of_fenced?`). The fence
cannot begin in front of itself, since no end of it is a beginning of it, so the first block is the one that is
written first (`fenced?_append`); and a text without line breaks ends no block (`upToFence?_append`).

* **A reply is recovered** (`readReply_of_writesReply`) from whatever words around the object that writes
  it, in a block and without one: the words may not open a block themselves and, without a block, may not
  open or close the braces. The strings of the object may hold anything, even code with fences and
  braces of its own.
-/

namespace Diagnosis.Explain

open Diagnosis.Text Diagnosis.Report

variable {s body before after inner : List Char}

/-! ## The part of an answer that is read -/

/-- What stands before a fence is how the text begins. -/
lemma prefix_of_upToFence? (h : upToFence? s = some body) : body <+: s := by
  induction s generalizing body with
  | nil => exact absurd h nofun
  | cons c rest ih =>
    unfold upToFence? at h
    split at h
    · obtain rfl := Option.some.inj h
      exact List.nil_prefix
    · obtain ⟨body', hbody, rfl⟩ := Option.map_eq_some_iff.mp h
      exact List.cons_prefix_cons.mpr ⟨rfl, ih hbody⟩

/-- What stands in a fence is a part of the text behind the opening. -/
lemma infix_of_fencedBody? (h : fencedBody? s = some body) : body <:+: s := by
  induction s generalizing body with
  | nil => exact absurd h nofun
  | cons c rest ih =>
    have hcons := (List.suffix_cons c rest).isInfix
    unfold fencedBody? at h
    split at h
    · exact absurd h nofun
    · split at h
      case h_1 body' hbody =>
        obtain rfl := Option.some.inj h
        exact (ih hbody).trans hcons
      case h_2 =>
        split at h
        · exact (prefix_of_upToFence? h).isInfix.trans hcons
        · exact absurd h nofun

/-- What stands in a fence is a part of the text. -/
lemma infix_of_fenced? (h : fenced? s = some body) : body <:+: s := by
  induction s generalizing body with
  | nil => exact absurd h nofun
  | cons c rest ih =>
    have hcons := (List.suffix_cons c rest).isInfix
    unfold fenced? at h
    split at h
    · split at h
      case h_1 body' hbody =>
        obtain rfl := Option.some.inj h
        exact (infix_of_fencedBody? hbody).trans (List.drop_suffix _ _).isInfix
      case h_2 => exact (ih h).trans hcons
    · exact (ih h).trans hcons

/-- What stands in braces is a part of the text. -/
lemma infix_braced (s : List Char) : braced s <:+: s := by
  unfold braced
  split
  · split
    · exact (List.take_prefix _ _).isInfix.trans (List.drop_suffix _ _).isInfix
    · exact List.nil_infix
  · exact List.nil_infix

/-- What is read is a part of the answer. -/
lemma infix_of_isolate? {answer part : String} (h : isolate? answer = some part) :
    part.toList <:+: answer.toList := by
  unfold isolate? at h
  dsimp only at h
  split at h
  · exact absurd h nofun
  · obtain rfl := Option.some.inj h
    rw [String.toList_ofList, candidate]
    cases hfenced : fenced? answer.toList with
    | some body => exact infix_of_fenced? hfenced
    | none => exact infix_braced _

/-! ## Fenced blocks -/

/-- Blanks and a line break stand in front of the body of a block. -/
lemma exists_gap_of_fencedBody? (h : fencedBody? s = some body) :
    ∃ gap, (∀ c ∈ gap, isBlank c = true) ∧ gap ++ ['\n'] <+: s := by
  induction s generalizing body with
  | nil => exact absurd h nofun
  | cons c rest ih =>
    unfold fencedBody? at h
    split at h
    · exact absurd h nofun
    case isFalse hblank =>
      split at h
      case h_1 body' hbody =>
        obtain ⟨gap, hgap, hbegins⟩ := ih hbody
        have hc : isBlank c = true := by simpa using hblank
        exact ⟨c :: gap, List.forall_mem_cons.mpr ⟨hc, hgap⟩, List.cons_prefix_cons.mpr ⟨rfl, hbegins⟩⟩
      case h_2 =>
        split at h
        case isTrue hbreak => exact ⟨[], nofun, List.cons_prefix_cons.mpr ⟨hbreak.symm, List.nil_prefix⟩⟩
        case isFalse => exact absurd h nofun

/-- A block opens with its fence, blanks and a line break. -/
lemma exists_infix_of_fenced? (h : fenced? s = some body) :
    ∃ gap, (∀ c ∈ gap, isBlank c = true) ∧ openingFence ++ (gap ++ ['\n']) <:+: s := by
  induction s generalizing body with
  | nil => exact absurd h nofun
  | cons c rest ih =>
    have hlater : fenced? rest = some body → ∃ gap, (∀ d ∈ gap, isBlank d = true) ∧
        openingFence ++ (gap ++ ['\n']) <:+: c :: rest := fun hrest =>
      let ⟨gap, hgap, hstands⟩ := ih hrest
      ⟨gap, hgap, hstands.trans (List.suffix_cons c rest).isInfix⟩
    unfold fenced? at h
    split at h
    case isTrue hfence =>
      split at h
      case h_1 body' hbody =>
        obtain ⟨gap, hgap, hbegins⟩ := exists_gap_of_fencedBody? hbody
        obtain ⟨tail, htail⟩ := List.isPrefixOf_iff_prefix.mp hfence
        rw [← htail, List.drop_left] at hbegins
        rw [← htail]
        exact ⟨gap, hgap, ((List.prefix_append_right_inj openingFence).mpr hbegins).isInfix⟩
      case h_2 => exact hlater h
    case isFalse => exact hlater h

/-- A line is read up to the closing fence that stands below it. -/
lemma upToFence?_append (hline : '\n' ∉ body) (after : List Char) :
    upToFence? (body ++ '\n' :: (closingFence ++ after)) = some body := by
  induction body with
  | nil =>
    have hclosing : closingFence.isPrefixOf ((closingFence ++ after).dropWhile isBlank) = true := by
      rw [List.isPrefixOf_iff_prefix]
      exact List.prefix_append closingFence after
    exact if_pos ⟨rfl, hclosing⟩
  | cons c body ih =>
    obtain ⟨hc, hbody⟩ := List.ne_and_not_mem_of_not_mem_cons hline
    rw [List.cons_append, upToFence?, if_neg fun h => hc h.1.symm, ih hbody]
    rfl

/-- The body of a block begins after the line break, unless it begins with a blank. -/
lemma fencedBody?_newline_cons {c : Char} (hc : isBlank c = false) (rest : List Char) :
    fencedBody? ('\n' :: c :: rest) = upToFence? (c :: rest) := by
  have hnone : fencedBody? (c :: rest) = none := by
    rw [fencedBody?, hc]
    rfl
  rw [fencedBody?, hnone]
  rfl

/-- The first block is the one whose fence comes first. -/
lemma fenced?_append (hbefore : ¬ openingFence <:+: before) (hbody : fencedBody? s = some body) :
    fenced? (before ++ (openingFence ++ s)) = some body := by
  induction before with
  | nil =>
    have hne : openingFence ++ s ≠ [] := List.append_ne_nil_of_left_ne_nil (by decide) s
    obtain ⟨c, rest, hrest⟩ := List.exists_cons_of_ne_nil hne
    have hfence : openingFence.isPrefixOf (openingFence ++ s) = true :=
      List.isPrefixOf_iff_prefix.mpr (List.prefix_append openingFence s)
    rw [List.nil_append, hrest, fenced?, ← hrest, if_pos hfence, List.drop_left, hbody]
  | cons c before ih =>
    have hends : ∀ x ∈ openingFence.tails, x ≠ [] → x <+: openingFence → x = openingFence := by decide
    have hstart : ¬ openingFence.isPrefixOf (c :: (before ++ (openingFence ++ s))) = true := by
      rw [List.isPrefixOf_iff_prefix]
      intro hbegins
      have hinside := prefix_of_prefix_append_self hends (List.cons_ne_nil c before) hbegins
      exact hbefore hinside.isInfix
    rw [List.cons_append, fenced?, if_neg hstart]
    exact ih fun h => hbefore (h.trans (List.suffix_cons c before).isInfix)

/-- Without a backquote there is no fenced block. -/
lemma fenced?_eq_none (h : '\x60' ∉ s) : fenced? s = none := by
  cases hfenced : fenced? s with
  | none => rfl
  | some body =>
    obtain ⟨gap, -, hstands⟩ := exists_infix_of_fenced? hfenced
    have hmem : '\x60' ∈ openingFence := by decide
    exact absurd (hstands.mem (List.mem_append_left _ hmem)) h

/-! ## Braces -/

/-- What stands between the first opening and the last closing brace. -/
lemma braced_append (hbefore : '{' ∉ before) (inner : List Char) (hafter : '}' ∉ after) :
    braced (before ++ '{' :: (inner ++ '}' :: after)) = '{' :: (inner ++ ['}']) := by
  have hfirst := indexOf?_append_cons hbefore (inner ++ '}' :: after)
  have hlast := lastIndexOf?_append_cons hafter (before ++ '{' :: inner)
  have hassoc : before ++ '{' :: inner ++ '}' :: after = before ++ '{' :: (inner ++ '}' :: after) := by
    simp
  rw [hassoc] at hlast
  have hlength : (before ++ '{' :: inner).length + 1 - before.length =
      ('{' :: (inner ++ ['}'])).length := by
    simp only [List.length_append, List.length_cons, List.length_nil]
    omega
  have hlt : before.length < (before ++ '{' :: inner).length := by simp
  have hobject : '{' :: (inner ++ '}' :: after) = '{' :: (inner ++ ['}']) ++ after := by simp
  rw [braced, hfirst, hlast]
  dsimp only
  rw [if_pos hlt, hlength, List.drop_left, hobject, List.take_left]

/-- A line between braces opens no block, and neither do words around it that hold no fence. -/
lemma fenced?_braced_eq_none (hline : '\n' ∉ inner) (hbefore : ¬ openingFence <:+: before)
    (hafter : ¬ openingFence <:+: after) :
    fenced? (before ++ '{' :: (inner ++ '}' :: after)) = none := by
  cases hfenced : fenced? (before ++ '{' :: (inner ++ '}' :: after)) with
  | none => rfl
  | some body =>
    exfalso
    obtain ⟨gap, hgap, hstands⟩ := exists_infix_of_fenced? hfenced
    have hfence : openingFence <:+: openingFence ++ (gap ++ ['\n']) :=
      (List.prefix_append _ _).isInfix
    have hbrace : ∀ c, c ∉ openingFence → c ≠ '\n' → isBlank c = false →
        c ∉ openingFence ++ (gap ++ ['\n']) := by
      intro c hc hne hblank hmem
      rcases List.mem_append.mp hmem with hmem | hmem
      · exact hc hmem
      · rcases List.mem_append.mp hmem with hmem | hmem
        · exact Bool.false_ne_true (hblank.symm.trans (hgap c hmem))
        · exact hne (List.mem_singleton.mp hmem)
    -- no brace stands in what opens a block, so it lies on one side of each of them
    have hopening : '{' ∉ openingFence ++ (gap ++ ['\n']) := hbrace '{' (by decide) (by decide) rfl
    have hclosing : '}' ∉ openingFence ++ (gap ++ ['\n']) := hbrace '}' (by decide) (by decide) rfl
    rcases infix_or_infix_of_append_cons hopening hstands with hfront | hrest
    · exact hbefore (hfence.trans hfront)
    · rcases infix_or_infix_of_append_cons hclosing hrest with hmiddle | hback
      · exact hline (hmiddle.mem (by simp))
      · exact hafter (hfence.trans hback)

/-! ## Objects that write a reply -/

variable {fields : List (String × Json)} {object : String} {reply : Reply} {value : Option String}

/-- What a field of an object says of a text: its value, or none where it is null or missing. -/
inductive HoldsText (fields : List (String × Json)) (key : String) : Option String → Prop
  | missing : Json.find? key fields = none → HoldsText fields key none
  | null : Json.find? key fields = some .null → HoldsText fields key none
  | text {value : String} : Json.find? key fields = some (.string value) →
      HoldsText fields key (some value)

/-- A field is found as text if the object has it, and as text. -/
lemma textField?_eq_some_iff {key : String} :
    textField? fields key = some value ↔ HoldsText fields key value := by
  constructor
  · intro h
    unfold textField? at h
    split at h
    case h_1 hfield => exact Option.some.inj h ▸ .missing hfield
    case h_2 hfield => exact Option.some.inj h ▸ .null hfield
    case h_3 text hfield => exact Option.some.inj h ▸ .text hfield
    case h_4 => exact absurd h nofun
  · rintro (hfield | hfield | hfield) <;> rw [textField?, hfield]

instance (key : String) : Decidable (HoldsText fields key value) :=
  decidable_of_iff _ textField?_eq_some_iff

/-- Whether the fields of an object are those of a reply: the mended text has the first of its two keys. Other
fields make no difference. -/
structure HoldsReply (fields : List (String × Json)) (reply : Reply) : Prop where
  explanation : HoldsText fields "explanation" reply.explanation
  suggestion : HoldsText fields "suggestion" reply.suggestion
  fixedCode : HoldsText fields "fixedCode" reply.fixedCode
  otherKey : Json.find? "fixed_code" fields = none

instance : Decidable (HoldsReply fields reply) :=
  decidable_of_iff (HoldsText fields "explanation" reply.explanation ∧
      HoldsText fields "suggestion" reply.suggestion ∧
      HoldsText fields "fixedCode" reply.fixedCode ∧ Json.find? "fixed_code" fields = none)
    ⟨fun ⟨h, h', h'', hother⟩ => ⟨h, h', h'', hother⟩,
      fun h => ⟨h.explanation, h.suggestion, h.fixedCode, h.otherKey⟩⟩

/-- The mended text is read under the first of its two keys where the second one is missing. -/
lemma textField?_fixedCodeKey (h : HoldsText fields "fixedCode" value)
    (hother : Json.find? "fixed_code" fields = none) :
    textField? fields (fixedCodeKey fields) = some value := by
  rw [textField?_eq_some_iff, fixedCodeKey]
  cases h with
  | missing hfield =>
    rw [hfield]
    exact .missing hother
  | null hfield =>
    rw [hfield]
    exact .null hfield
  | text hfield =>
    rw [hfield]
    exact .text hfield

/-- From an object that holds a reply, the reply is read. -/
lemma HoldsReply.ofJson?_eq (h : HoldsReply fields reply) :
    Reply.ofJson? (.object fields) = some reply := by
  simp only [Reply.ofJson?, Json.asObject?, textField?_eq_some_iff.mpr h.explanation,
    textField?_eq_some_iff.mpr h.suggestion, textField?_fixedCodeKey h.fixedCode h.otherKey,
    Option.bind_eq_bind, Option.bind_some, Option.pure_def]

/-- The fields of the object that a text writes. -/
def readObject? (object : String) : Option (List (String × Json)) :=
  (Json.read object).toOption.bind Json.asObject?

/-- An object is read from a text if the text is one. -/
lemma readObject?_eq_some_iff :
    readObject? object = some fields ↔ Json.read object = .ok (.object fields) := by
  unfold readObject?
  cases Json.read object with
  | error fault => exact iff_of_false nofun nofun
  | ok v => cases v <;> simp [Except.toOption, Json.asObject?]

/-- Whether a text is an object on one line that writes a reply. -/
structure WritesReply (object : String) (reply : Reply) : Prop where
  isLine : '\n' ∉ object.toList
  opens : object.toList.head? = some '{'
  closes : object.toList.getLast? = some '}'
  isObject : ∃ fields ∈ readObject? object, HoldsReply fields reply

instance : Decidable (WritesReply object reply) :=
  decidable_of_iff ('\n' ∉ object.toList ∧ object.toList.head? = some '{' ∧
      object.toList.getLast? = some '}' ∧ ∃ fields ∈ readObject? object, HoldsReply fields reply)
    ⟨fun ⟨hline, hopens, hcloses, hobject⟩ => ⟨hline, hopens, hcloses, hobject⟩,
      fun h => ⟨h.isLine, h.opens, h.closes, h.isObject⟩⟩

namespace WritesReply

/-- A written reply stands in braces. -/
lemma exists_inner (h : WritesReply object reply) :
    ∃ inner, object.toList = '{' :: (inner ++ ['}']) := by
  obtain ⟨rest, hrest⟩ := List.head?_eq_some_iff.mp h.opens
  obtain ⟨front, hfront⟩ := List.getLast?_eq_some_iff.mp h.closes
  cases front with
  | nil => exact absurd (hrest.symm.trans hfront) (by simp)
  | cons c inner =>
    have hc : '{' = c := (List.cons.inj (hrest.symm.trans hfront)).1
    exact ⟨inner, hc ▸ hfront⟩

/-- A written reply is read, and as the reply. -/
lemma exists_read (h : WritesReply object reply) :
    ∃ v, Json.read object = .ok v ∧ Reply.ofJson? v = some reply := by
  obtain ⟨fields, hfields, hholds⟩ := h.isObject
  exact ⟨.object fields, readObject?_eq_some_iff.mp hfields, hholds.ofJson?_eq⟩

/-- An answer in which the object is found is the reply. -/
lemma readReply_of_candidate (h : WritesReply object reply) {answer : String}
    (hfound : candidate answer.toList = object.toList) : readReply answer = .ok reply := by
  obtain ⟨inner, hinner⟩ := h.exists_inner
  obtain ⟨v, hread, hv⟩ := h.exists_read
  have hblank : object.toList.all isBlank = false := by
    rw [hinner]
    rfl
  have hisolate : isolate? answer = some object := by
    rw [isolate?, hfound, hblank, String.ofList_toList]
    rfl
  rw [readReply, hisolate]
  dsimp only
  rw [hread]
  dsimp only
  rw [hv]
  rfl

end WritesReply

/-- An object whose mended text holds a fenced block and braces. -/
def fencedObject : String :=
  "\x7b\"explanation\":\"E\",\"suggestion\":null,\"fixedCode\":\"\x7d\\n```json\\n\x7b\\n```\"\x7d"

end Diagnosis.Explain
