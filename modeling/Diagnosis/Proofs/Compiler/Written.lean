import Diagnosis.Proofs.Compiler.Output

/-!
# Lines as a compiler writes them

`written` is the form in which a compiler names a problem, or notes something, and its place; `echoed` is that
of a line of the program it shows. What is read from such lines?

* **Problems are read back** (`readLine_written`): path, place, word and message are told apart as they were
  put together, even if the path has colons and digits itself. All that it must not hold is what could be taken
  for the place and the word (`HoldsPlace`): what begins inside a path has to end there, since behind the colon
  that ends the path there are two numbers (`holdsPlace_of_afterPath`).
* **Notes and echoes** (`readLine_note_iff`): nothing is read from them, unless they happen to speak of an error
  or a warning, and they do so only in the part that is not the compiler's own.
-/

namespace Diagnosis.Compiler

open Diagnosis.Text

/-- How a compiler writes what it has to say of a place. -/
def written (path : List Char) (line column : Nat) (word message : List Char) : List Char :=
  path ++ ':' :: (Nat.toDigits 10 line ++ ':' :: (Nat.toDigits 10 column ++ ':' :: ' ' ::
    (word ++ ':' :: ' ' :: message)))

/-- How a compiler shows a line of the program. -/
def echoed (margin : List Char) (line : Nat) (source : List Char) : List Char :=
  margin ++ (Nat.toDigits 10 line ++ " | ".toList ++ source)

/-- Whether a text is of one line and has no control characters. -/
def IsPlainLine (s : List Char) : Prop := ∀ c ∈ s, Secret.isControl c = false ∧ c ≠ '\n'

instance (s : List Char) : Decidable (IsPlainLine s) := List.decidableBAll _ s

/-- The words for problems, without the colon. -/
def problemWords : List (List Char) := ["error".toList, "fatal error".toList, "warning".toList]

/-- Whether a text holds what stands between a path and a message. -/
def HoldsPlace (s : List Char) : Prop :=
  ∃ line column gap word severity, IsNumber line ∧ IsNumber column ∧ (∀ c ∈ gap, isBlank c = true) ∧
    (word, severity) ∈ severityWords ∧ ':' :: (line ++ ':' :: (column ++ ':' :: (gap ++ word))) <:+: s

/-! ## Numbers and words -/

section words

variable {digits gap word rest : List Char} {severity : Severity}

/-- The decimal digits of a number are a number. -/
lemma isNumber_toDigits (n : Nat) : IsNumber (Nat.toDigits 10 n) :=
  ⟨Nat.toDigits_ne_nil, fun _ => isDigit_of_mem_toDigits⟩

/-- No number holds a colon. -/
lemma IsNumber.colon_not_mem (h : IsNumber digits) : ':' ∉ digits := fun hmem =>
  ne_of_isDigit (h.2 _ hmem) (by decide) rfl

/-- A word for a severity ends with its only colon, and begins with no digit. -/
lemma exists_severityWord (h : (word, severity) ∈ severityWords) :
    ∃ c bare, word = c :: bare ++ [':'] ∧ ':' ∉ c :: bare ∧ isDigit c = false := by
  simp only [severityWords, List.mem_cons, List.not_mem_nil, or_false, Prod.mk.injEq] at h
  rcases h with ⟨rfl, -⟩ | ⟨rfl, -⟩ | ⟨rfl, -⟩
  · exact ⟨'f', "atal error".toList, by decide, by decide, isDigit_of_ascii (by decide)⟩
  · exact ⟨'e', "rror".toList, by decide, by decide, isDigit_of_ascii (by decide)⟩
  · exact ⟨'w', "arning".toList, by decide, by decide, isDigit_of_ascii (by decide)⟩

/-- Behind the numbers stands no digit. -/
lemma not_isDigit_head_gap (hgap : ∀ c ∈ gap, isBlank c = true) (hword : (word, severity) ∈ severityWords) :
    ∀ c ∈ (gap ++ (word ++ rest)).head?, isDigit c = false := by
  intro c hc
  cases gap with
  | nil =>
    obtain ⟨d, bare, rfl, -, hd⟩ := exists_severityWord hword
    obtain rfl := Option.some.inj hc
    exact hd
  | cons d gap =>
    obtain rfl := Option.some.inj hc
    rw [Bool.eq_false_iff]
    intro hdigit
    exact Bool.false_ne_true ((not_isBlank_of_isDigit hdigit).symm.trans (hgap _ List.mem_cons_self))

end words

/-! ## Problems -/

section problems

variable {path message line column rest q : List Char} {l : LocatedLine}

/-- **What begins inside a path ends there**, if it has the form of a place, a word and a message: behind the
path there are two numbers, and behind these two there is no third. -/
lemma holdsPlace_of_afterPath (hq : q ≠ []) (hline : IsNumber line) (hcolumn : IsNumber column)
    (h : AfterPath (q ++ ':' :: (line ++ ':' :: (column ++ rest))) l) : HoldsPlace (q ++ [':']) := by
  obtain ⟨s, hs⟩ : ∃ s, s = q ++ ':' :: (line ++ ':' :: (column ++ rest)) := ⟨_, rfl⟩
  rw [← hs] at h
  cases h with
  | @intro line' column' gap word margin body ending severity isLine isColumn isGap isWord _ _ _ =>
    have hbehind : ∀ more, ∀ c ∈ (gap ++ (word ++ more)).head?, isDigit c = false :=
      fun more => not_isDigit_head_gap isGap isWord
    -- a number is not what stands behind the second number
    have hnumber : ∀ digits more, IsNumber digits → gap ++ (word ++ (margin ++ (body ++ ending))) ≠
        digits ++ more := by
      intro digits more hdigits heq
      obtain ⟨c, digits, rfl⟩ := List.exists_cons_of_ne_nil hdigits.1
      have hc := hbehind (margin ++ (body ++ ending)) c (heq ▸ rfl)
      rw [hdigits.2 c List.mem_cons_self] at hc
      exact Bool.false_ne_true hc.symm
    obtain ⟨d, q, rfl⟩ := List.exists_cons_of_ne_nil hq
    rw [List.cons_append] at hs
    obtain ⟨rfl, htail⟩ := List.cons.inj hs
    rcases append_cons_eq_append_cons isLine.colon_not_mem htail with ⟨rfl, hmore⟩ | ⟨q, rfl, hmore⟩
    · -- the colon behind the path would be the second one
      rcases append_cons_eq_append_cons isColumn.colon_not_mem hmore.symm with ⟨-, heq⟩ | ⟨e, heq, -⟩
      · exact absurd heq.symm (hnumber _ _ hcolumn)
      · exact absurd (heq ▸ List.mem_append_right _ List.mem_cons_self) hline.colon_not_mem
    rcases append_cons_eq_append_cons isColumn.colon_not_mem hmore with ⟨rfl, hgap⟩ | ⟨q, rfl, hgap⟩
    · -- the colon behind the path would be the third one
      exact absurd hgap.symm (hnumber _ _ hline)
    obtain ⟨d, bare, rfl, hbare, -⟩ := exists_severityWord isWord
    have hcolon : ':' ∉ gap ++ d :: bare := by
      rw [List.mem_append, not_or]
      exact ⟨fun h => absurd (isGap _ h) (by decide), hbare⟩
    have hend : (gap ++ d :: bare) ++ ':' :: (margin ++ (body ++ ending)) =
        q ++ ':' :: (line ++ ':' :: (column ++ rest)) := by
      simpa using hgap
    refine ⟨line', column', gap, d :: bare ++ [':'], severity, isLine, isColumn, isGap, isWord, ?_⟩
    rcases append_cons_eq_append_cons hcolon hend with ⟨rfl, -⟩ | ⟨q, rfl, -⟩
    · exact ⟨[], [], by simp⟩
    · exact ⟨[], q ++ [':'], by simp⟩

/-- A line that holds a place and a word names a problem, and only such a line does. -/
lemma read?_eq_none_iff_not_holdsPlace {s : List Char} (h : '\n' ∉ s) :
    LocatedLine.read? s = none ↔ ¬ HoldsPlace s := by
  rw [LocatedLine.read?_eq_none_iff]
  constructor
  · rintro hnone ⟨line, column, gap, word, severity, hline, hcolumn, hgap, hword, front, back, rfl⟩
    simp only [List.mem_append, not_or] at h
    refine hnone front ⟨line, column, severity, strip back⟩ ⟨_, ?_, h.1.1, .intro hline hcolumn hgap hword
      (List.forall_mem_nil _) h.2 (.inl rfl)⟩
    simp
  · rintro hnone path l ⟨rest, rfl, -, hrest⟩
    cases hrest with
    | @intro line column gap word margin body ending severity isLine isColumn isGap isWord _ _ _ =>
      refine hnone ⟨line, column, gap, word, severity, isLine, isColumn, isGap, isWord, ?_⟩
      exact ⟨path, margin ++ (body ++ ending), by simp⟩

variable {n k : Nat} {word : List Char} {severity : Severity}

/-- A problem is named as it is written. -/
lemma names_written (hpath : '\n' ∉ path) (hmessage : '\n' ∉ message)
    (hword : (word ++ [':'], severity) ∈ severityWords) (hplace : ¬ HoldsPlace (path ++ [':'])) :
    Names (written path n k word message) ⟨Nat.toDigits 10 n, Nat.toDigits 10 k, severity, strip message⟩ := by
  have hgap : ∀ c ∈ [' '], isBlank c = true := List.all_eq_true.mp (by decide)
  have hafter : AfterPath (':' :: (Nat.toDigits 10 n ++ ':' :: (Nat.toDigits 10 k ++ ':' :: ([' '] ++
      ((word ++ [':']) ++ ([' '] ++ (message ++ [])))))))
      ⟨Nat.toDigits 10 n, Nat.toDigits 10 k, severity, strip message⟩ :=
    .intro (isNumber_toDigits n) (isNumber_toDigits k) hgap hword hgap hmessage (.inl rfl)
  refine ⟨path, ⟨_, ?_, hpath, hafter⟩, fun path' l' hl' => ?_⟩
  · simp [written]
  · -- a shorter path would be followed by a place that begins in the path
    obtain ⟨rest, hsplit, -, hrest⟩ := hl'
    by_contra hlt
    rcases List.append_eq_append_iff.mp hsplit with ⟨e, rfl, -⟩ | ⟨e, rfl, rfl⟩
    · rw [List.length_append] at hlt
      omega
    · have he : e ≠ [] := by
        rintro rfl
        rw [List.append_nil] at hlt
        exact hlt (Nat.le_refl _)
      obtain ⟨line, column, gap, word, severity, hline, hcolumn, hgap, hword, hheld⟩ :=
        holdsPlace_of_afterPath he (isNumber_toDigits n) (isNumber_toDigits k) hrest
      refine hplace ⟨line, column, gap, word, severity, hline, hcolumn, hgap, hword, hheld.trans ?_⟩
      exact ⟨path', [], by simp⟩

/-- A problem is written without control characters, if its path and its message are. -/
lemma isControl_written (hpath : ∀ c ∈ path, Secret.isControl c = false)
    (hmessage : ∀ c ∈ message, Secret.isControl c = false) (hword : word ∈ problemWords) :
    ∀ c ∈ written path n k word message, Secret.isControl c = false := by
  have hwords : ∀ word ∈ problemWords, word.all (!Secret.isControl ·) = true := by decide
  have hdigits : ∀ n, ∀ c ∈ Nat.toDigits 10 n, Secret.isControl c = false :=
    fun n c hc => Secret.isControl_of_isDigit (isDigit_of_mem_toDigits hc)
  unfold written
  simp only [List.forall_mem_append, List.forall_mem_cons]
  exact ⟨hpath, rfl, hdigits n, rfl, hdigits k, rfl, rfl, eq_false_of_all (hwords word hword), rfl, rfl, hmessage⟩

end problems

/-! ## Options -/

/-- Whether a message ends with the tag of a warning option. -/
def EndsWithTag (message option : List Char) : Prop :=
  ∃ front name, message = front ++ '[' :: (option ++ [']']) ∧ option = '-' :: 'W' :: name ∧ name ≠ [] ∧
    ∀ c ∈ name, isOptionChar c = true

/-- The option of a message is the one that its tag names. -/
lemma warningOption?_eq_some_iff {message option : List Char} :
    warningOption? message = some option ↔ EndsWithTag message option := by
  unfold warningOption?
  constructor
  · intro h
    split at h
    case h_1 rest hreverse =>
      dsimp only at h
      split at h
      case h_1 front hdrop =>
        obtain ⟨htag, hsome⟩ := Option.ite_none_right_eq_some.mp h
        obtain rfl := Option.some.inj hsome
        rw [Bool.and_eq_true, List.isPrefixOf_iff_prefix, decide_eq_true_eq] at htag
        obtain ⟨⟨name, hoption⟩, hlong⟩ := htag
        have hrest : rest = rest.takeWhile isOptionChar ++ '[' :: front := by
          rw [← hdrop, List.takeWhile_append_dropWhile]
        refine ⟨front.reverse, name, ?_, hoption.symm, ?_, fun c hc => ?_⟩
        · rw [← List.reverse_inj, hreverse]
          conv_lhs => rw [hrest]
          simp
        · rintro rfl
          rw [← hoption] at hlong
          exact absurd hlong (by decide)
        · have hmem := List.mem_append_right ['-', 'W'] hc
          rw [hoption, List.mem_reverse] at hmem
          exact List.mem_takeWhile_imp hmem
      case h_2 => exact absurd h nofun
    case h_2 => exact absurd h nofun
  · rintro ⟨front, name, rfl, rfl, hne, hname⟩
    have hrun : ∀ c ∈ name.reverse ++ ['W', '-'], isOptionChar c = true := by
      rw [List.forall_mem_append]
      exact ⟨fun c hc => hname c (List.mem_reverse.mp hc), List.all_eq_true.mp (by decide +kernel)⟩
    have hopening : ∀ c ∈ ('[' :: front.reverse).head?, isOptionChar c = false := by
      intro c hc
      obtain rfl := Option.some.inj hc
      decide +kernel
    obtain ⟨htake, hdrop⟩ := takeWhile_dropWhile_append hrun hopening
    have hreverse : (front ++ '[' :: ('-' :: 'W' :: name ++ [']'])).reverse =
        ']' :: (name.reverse ++ ['W', '-'] ++ '[' :: front.reverse) := by simp
    rw [hreverse]
    split
    case h_1 rest heq =>
      obtain rfl := (List.cons.inj heq).2
      rw [htake, hdrop]
      simpa using hne
    case h_2 hnone => exact absurd rfl (hnone _)

/-- **Problems are read back.** What a compiler writes of a problem, without line feeds and control characters,
is read as a diagnostic at the line and column that it has written, with the severity of its word and its message
without the blanks around it, and with the option of the tag that ends the message as its category, if there is
one. This holds for every path that does not hold what could be taken for a place and a word. -/
theorem readLine_written (naming : Naming) {path message word : List Char} {line column : Nat}
    (hpath : IsPlainLine path) (hmessage : IsPlainLine message)
    (hline : (Nat.toDigits 10 line).length ≤ numeralLimit)
    (hcolumn : (Nat.toDigits 10 column).length ≤ numeralLimit)
    (hword : word ∈ problemWords) (hplace : ¬ HoldsPlace (path ++ [':'])) :
    ∃ category, readLine naming (written path line column word message) =
        .ok (some (problem (if word = "warning".toList then .warning else .error)
          (String.ofList (strip message)) line column category)) ∧
      ∀ option, category = some option ↔ EndsWithTag (strip message) option.toList := by
  have hseverity : ∀ word ∈ problemWords,
      (word ++ [':'], if word = "warning".toList then Severity.warning else .error) ∈ severityWords := by
    decide
  have hsame : Secret.sanitize (written path line column word message) =
      written path line column word message :=
    Secret.sanitize_eq_self (isControl_written (fun c hc => (hpath c hc).1) (fun c hc => (hmessage c hc).1) hword)
  have hnames := names_written (n := line) (k := column) (fun h => (hpath _ h).2 rfl)
    (fun h => (hmessage _ h).2 rfl) (hseverity word hword) hplace
  refine ⟨(warningOption? (strip message)).map String.ofList, ?_, fun option => ?_⟩
  · rw [readLine, hsame, LocatedLine.read?_eq_some_iff.mpr hnames]
    dsimp only
    rw [LocatedLine.problem, readWhole_toDigits hline, readWhole_toDigits hcolumn]
    rfl
  · rw [← warningOption?_eq_some_iff, Option.map_eq_some_iff]
    constructor
    · rintro ⟨chars, hchars, rfl⟩
      rwa [String.toList_ofList]
    · exact fun h => ⟨option.toList, h, String.ofList_toList⟩

/-- A path with colons, digits and a word for a severity, and a message with a place and a tag. -/
theorem readLine_written_colons :
    IsPlainLine "C:\\a:7:error:b.cpp".toList ∧ IsPlainLine "odd:1:2: error: x [-Wall]".toList ∧
      ¬ HoldsPlace ("C:\\a:7:error:b.cpp".toList ++ [':']) ∧
      readLine {} (written "C:\\a:7:error:b.cpp".toList 12 3 "warning".toList
          "odd:1:2: error: x [-Wall]".toList) =
        .ok (some (problem .warning "odd:1:2: error: x [-Wall]" 12 3 (some "-Wall"))) := by
  have hpath : IsPlainLine "C:\\a:7:error:b.cpp".toList := by decide
  have hmessage : IsPlainLine "odd:1:2: error: x [-Wall]".toList := by decide
  have hplace : ¬ HoldsPlace ("C:\\a:7:error:b.cpp".toList ++ [':']) :=
    (read?_eq_none_iff_not_holdsPlace (by decide)).mp (by decide +kernel)
  obtain ⟨category, hread, hcategory⟩ :=
    @readLine_written {} _ _ "warning".toList 12 3 hpath hmessage (by decide) (by decide) (by decide) hplace
  have htag : category = some "-Wall" :=
    (hcategory "-Wall").mpr ⟨"odd:1:2: error: x ".toList, "all".toList, by decide, by decide,
      List.cons_ne_nil _ _, List.all_eq_true.mp (by decide +kernel)⟩
  have hstrip : strip "odd:1:2: error: x [-Wall]".toList = "odd:1:2: error: x [-Wall]".toList := by
    decide
  rw [htag, if_pos rfl, hstrip, String.ofList_toList] at hread
  exact ⟨hpath, hmessage, hplace, hread⟩

/-! ## Notes and echoes -/

/-- The words that a line speaks of a problem with. -/
def spokenWords : List (List Char) := ["error:".toList, "warning:".toList]

section silent

variable {part front back : List Char}

/-- A line speaks of a problem if one of the two words for problems stands in it. -/
lemma speaks_iff {s : List Char} : Speaks s ↔ ∃ part ∈ spokenWords, part <:+: s := by
  simp [Speaks, spokenWords]

/-- Nothing is read from a line that does not speak of a problem, and from no other. -/
lemma readLine_eq_none_iff (naming : Naming) (raw : List Char) :
    readLine naming raw = .ok none ↔ ¬ Speaks (Secret.sanitize raw) := by
  constructor
  · intro h
    rcases readLine_spec h with ⟨d, hd, -⟩ | ⟨-, hsilent⟩
    · exact absurd hd (Option.some_ne_none d).symm
    · exact hsilent
  · intro hsilent
    have hunnamed : LocatedLine.read? (Secret.sanitize raw) = none :=
      LocatedLine.read?_eq_none_iff.mpr fun path l hl => hsilent hl.speaks
    rw [readLine, hunnamed]
    rcases spokenSeverity?_spec (Secret.sanitize raw) with ⟨severity, -, hspeaks, -⟩ | ⟨hspoken, -⟩
    · exact absurd hspeaks hsilent
    · rw [hspoken]
      rfl

/-- What is read from a line that speaks of a problem and names no place. -/
lemma readLine_of_unlocated (naming : Naming) {raw : List Char} {severity : Severity}
    (hread : LocatedLine.read? (Secret.sanitize raw) = none)
    (hspoken : spokenSeverity? (Secret.sanitize raw) = some severity) :
    readLine naming raw =
      .ok (some (problem severity (String.ofList (naming.apply (strip (Secret.sanitize raw)))) 0 0 none)) := by
  rw [readLine, hread, hspoken]
  rfl

/-- A word that a line speaks with has a letter that stands in no number and no margin. -/
lemma not_infix_of_forall (hpart : part ∈ spokenWords)
    (h : ∀ c ∈ front, isDigit c = true ∨ isBlank c = true ∨ c = ':') : ¬ part <:+: front := by
  have hletter : ∀ part ∈ spokenWords, 'r' ∈ part := by decide
  intro hheld
  rcases h 'r' (hheld.subset (hletter part hpart)) with hdigit | hblank | hcolon
  · exact absurd ((isDigit_of_ascii (by decide)).symm.trans hdigit) (by decide)
  · exact absurd hblank (by decide)
  · exact absurd hcolon (by decide)

/-- A line speaks with what stands in front of something that no word has, or with what stands behind it. -/
lemma infix_append_cons_iff {c : Char} (hc : c ∉ part) :
    part <:+: front ++ c :: back ↔ part <:+: front ∨ part <:+: back := by
  constructor
  · exact infix_or_infix_of_append_cons hc
  · rintro (h | h)
    · exact h.trans (List.infix_append' [] front (c :: back))
    · exact h.trans ⟨front ++ [c], [], by simp⟩

end silent

/-- A note speaks of a problem if its path, with the colon behind it, or its message does. -/
lemma speaks_note_iff (path message : List Char) (line column : Nat) :
    Speaks (Secret.sanitize (written path line column "note".toList message)) ↔
      Speaks (Secret.sanitize path ++ [':']) ∨ Speaks (Secret.sanitize message) := by
  have hcontrol : ∀ n, ∀ c ∈ Nat.toDigits 10 n, Secret.isControl c = false :=
    fun n c hc => Secret.isControl_of_isDigit (isDigit_of_mem_toDigits hc)
  have hplace : ∀ c ∈ Nat.toDigits 10 line ++ ':' :: (Nat.toDigits 10 column ++ ": note: ".toList),
      Secret.isControl c = false := by
    simp only [List.forall_mem_append, List.forall_mem_cons]
    exact ⟨hcontrol line, rfl, hcontrol column, eq_false_of_all (by decide)⟩
  obtain ⟨d, digits, hdigits⟩ := List.exists_cons_of_ne_nil (isNumber_toDigits line).1
  have hnumber : ∀ c ∈ d :: digits, isDigit c = true := fun c hc => isDigit_of_mem_toDigits (hdigits ▸ hc)
  have hsanitized : Secret.sanitize (written path line column "note".toList message) =
      (Secret.sanitize path ++ [':']) ++ d :: ((digits ++ ':' :: (Nat.toDigits 10 column ++ [':'])) ++
        ' ' :: ("note:".toList ++ ' ' :: Secret.sanitize message)) := by
    have hapart : written path line column "note".toList message = path ++ ':' :: ((Nat.toDigits 10 line ++
        ':' :: (Nat.toDigits 10 column ++ ": note: ".toList)) ++ message) := by
      simp [written]
    rw [hapart, Secret.sanitize_append_colon, Secret.sanitize_append hplace, hdigits]
    simp
  have hletters : ∀ part ∈ spokenWords, ∀ c ∈ part, c.toNat < 128 ∧ c.isDigit = false := by
    simp [spokenWords]
  have hwords : ∀ part ∈ spokenWords, ' ' ∉ part ∧ ¬ part <:+: "note:".toList := by decide
  rw [hsanitized, speaks_iff, speaks_iff, speaks_iff, ← exists_or]
  refine exists_congr fun part => ?_
  rw [← and_or_left]
  refine and_congr_right fun hpart => ?_
  obtain ⟨hblank, hnote⟩ := hwords part hpart
  have hdigit : d ∉ part := by
    intro h
    obtain ⟨hlt, hd⟩ := hletters part hpart d h
    have hdigit := hnumber d List.mem_cons_self
    rw [isDigit_of_ascii hlt, hd] at hdigit
    exact Bool.false_ne_true hdigit
  have hnumbers : ¬ part <:+: digits ++ ':' :: (Nat.toDigits 10 column ++ [':']) := by
    apply not_infix_of_forall hpart
    simp only [List.forall_mem_append, List.forall_mem_cons]
    exact ⟨fun c hc => .inl (hnumber c (List.mem_cons_of_mem d hc)), .inr (.inr trivial),
      fun c hc => .inl (isDigit_of_mem_toDigits hc), .inr (.inr trivial), List.forall_mem_nil _⟩
  rw [infix_append_cons_iff hdigit, infix_append_cons_iff hblank, or_iff_right hnumbers,
    infix_append_cons_iff hblank, or_iff_right hnote]

/-- What a compiler shows of a program speaks of a problem if the program does there. -/
lemma speaks_echoed_iff {margin : List Char} (hmargin : ∀ c ∈ margin, isBlank c = true) (line : Nat)
    (source : List Char) :
    Speaks (Secret.sanitize (echoed margin line source)) ↔ Speaks (Secret.sanitize source) := by
  have hescape : Secret.escapeChar ∉ margin := fun h => absurd (hmargin _ h) (by decide)
  have hnumber : ∀ c ∈ Nat.toDigits 10 line ++ " | ".toList, Secret.isControl c = false := by
    rw [List.forall_mem_append]
    exact ⟨fun c hc => Secret.isControl_of_isDigit (isDigit_of_mem_toDigits hc), eq_false_of_all (by decide)⟩
  have hsanitized : Secret.sanitize (echoed margin line source) =
      (margin.filter (!Secret.isControl ·) ++ (Nat.toDigits 10 line ++ [' '])) ++
        '|' :: ([] ++ ' ' :: Secret.sanitize source) := by
    rw [echoed, Secret.sanitize_append_of_not_mem hescape, Secret.sanitize_append hnumber]
    simp
  have hbars : ∀ part ∈ spokenWords, '|' ∉ part ∧ ' ' ∉ part ∧ ¬ part <:+: [] := by decide
  rw [hsanitized, speaks_iff, speaks_iff]
  refine exists_congr fun part => and_congr_right fun hpart => ?_
  obtain ⟨hbar, hblank, hnil⟩ := hbars part hpart
  rw [infix_append_cons_iff hbar, infix_append_cons_iff hblank, or_iff_right hnil, or_iff_right]
  apply not_infix_of_forall hpart
  simp only [List.forall_mem_append, List.forall_mem_singleton]
  exact ⟨fun c hc => .inr (.inl (hmargin c (List.mem_of_mem_filter hc))),
    fun c hc => .inl (isDigit_of_mem_toDigits hc), .inr (.inl rfl)⟩

/-- **Notes and echoes.** What a compiler notes at a place is read as no diagnostic exactly if neither the path with
the colon behind it nor the note speaks of an error or a warning, colours and control characters left out. A line
of the program that it shows is read as none exactly if the program does not speak of one there. -/
theorem readLine_note_iff (naming : Naming) :
    (∀ path line column message,
      readLine naming (written path line column "note".toList message) = .ok none ↔
        ¬ Speaks (Secret.sanitize path ++ [':']) ∧ ¬ Speaks (Secret.sanitize message)) ∧
    ∀ margin line source, (∀ c ∈ margin, isBlank c = true) →
      (readLine naming (echoed margin line source) = .ok none ↔ ¬ Speaks (Secret.sanitize source)) := by
  refine ⟨fun path line column message => ?_, fun margin line source hmargin => ?_⟩
  · rw [readLine_eq_none_iff, speaks_note_iff, not_or]
  · rw [readLine_eq_none_iff, speaks_echoed_iff hmargin]

/-- A note and a line of the program from which nothing is read, although they are about a mistake. -/
theorem readLine_note_silent :
    readLine {} (written "a.cpp".toList 1 2 "note".toList "this error is fatal".toList) = .ok none ∧
      (∀ c ∈ "    ".toList, isBlank c = true) ∧
      readLine {} (echoed "    ".toList 4 "warn(error);".toList) = .ok none := by
  obtain ⟨hnote, hecho⟩ := readLine_note_iff {}
  have hmargin : ∀ c ∈ "    ".toList, isBlank c = true := List.all_eq_true.mp (by decide)
  exact ⟨(hnote _ _ _ _).mpr (by decide +kernel), hmargin, (hecho _ _ _ hmargin).mpr (by decide +kernel)⟩

/-- A note that quotes a word, and a line of the program that prints one: both are taken for problems without a
place. -/
theorem readLine_note_spoken :
    readLine {} (written "a.cpp".toList 1 2 "note".toList "error: x".toList) =
        .ok (some (problem .error "a.cpp:1:2: note: error: x" 0 0 none)) ∧
      readLine {} (echoed "    ".toList 4 "puts(\"error: x\");".toList) =
        .ok (some (problem .error "4 | puts(\"error: x\");" 0 0 none)) := by
  have hnote : String.ofList (Naming.apply {} (strip (Secret.sanitize
      (written "a.cpp".toList 1 2 "note".toList "error: x".toList)))) = "a.cpp:1:2: note: error: x" := by
    decide +kernel
  have hecho : String.ofList (Naming.apply {} (strip (Secret.sanitize
      (echoed "    ".toList 4 "puts(\"error: x\");".toList)))) = "4 | puts(\"error: x\");" := by
    decide +kernel
  rw [← hnote, ← hecho]
  exact ⟨readLine_of_unlocated {} (by decide +kernel) (by decide +kernel),
    readLine_of_unlocated {} (by decide +kernel) (by decide +kernel)⟩

end Diagnosis.Compiler
