import Diagnosis.Compiler.Line
import Diagnosis.Proofs.Text.Blank
import Diagnosis.Proofs.Text.Numeral

/-!
# The form of compiler lines

`AfterPath` says what a line holds behind its path, as a grammar: two numbers, a word for the severity,
the message. `Locates` puts a path in front, and `Names` asks for the shortest one. None of them mentions
how a line is read.

* `LocatedLine.read?_eq_some_iff`: reading finds the problem behind the shortest path.
* `LocatedLine.read?_eq_none_iff`: it finds none only if there is none behind any path.

Each reader has a lemma for what it reads and one for what it makes of a text of the right form. The
grammar leaves no choice behind the path: a number ends at its colon, blanks end at the word, and no word
for a severity begins with another one (`readAfterPath?_eq_some_iff`).
-/

namespace Diagnosis.Compiler

open Diagnosis.Text

/-! ## The grammar -/

/-- Whether characters write a number: digits, of which there is one at least. -/
def IsNumber (digits : List Char) : Prop := digits ≠ [] ∧ ∀ c ∈ digits, isDigit c = true

/-- What may stand behind the path. Blanks surround the word for the severity; the message is one line,
which a line break may end. -/
inductive AfterPath : List Char → LocatedLine → Prop
  | intro {line column gap word margin body ending : List Char} {severity : Severity}
      (isLine : IsNumber line) (isColumn : IsNumber column) (isGap : ∀ c ∈ gap, isBlank c = true)
      (isWord : (word, severity) ∈ severityWords) (isMargin : ∀ c ∈ margin, isBlank c = true)
      (isBody : '\n' ∉ body) (isEnding : ending = [] ∨ ending = ['\n']) :
      AfterPath (':' :: (line ++ ':' :: (column ++ ':' :: (gap ++ (word ++ (margin ++ (body ++ ending)))))))
        ⟨line, column, severity, strip body⟩

/-- Whether a line names a problem behind a path. -/
def Locates (s path : List Char) (l : LocatedLine) : Prop :=
  ∃ rest, s = path ++ rest ∧ '\n' ∉ path ∧ AfterPath rest l

/-- Whether a line names a problem behind the shortest path behind which it names one. -/
def Names (s : List Char) (l : LocatedLine) : Prop :=
  ∃ path, Locates s path l ∧ ∀ path' l', Locates s path' l' → path.length ≤ path'.length

/-! ## Numbers and words -/

section readers

variable {s rest digits word : List Char} {severity : Severity}

/-- A number is read up to where its digits end. -/
lemma readNumber?_eq (h : IsNumber digits) (hrest : ∀ c ∈ rest.head?, isDigit c = false) :
    readNumber? (':' :: (digits ++ rest)) = some (digits, rest) := by
  obtain ⟨htake, hdrop⟩ := takeWhile_dropWhile_append h.2 hrest
  rw [readNumber?, htake, hdrop]
  exact if_neg (by simpa using h.1)

/-- What is read is a number behind a colon. -/
lemma exists_of_readNumber? (h : readNumber? s = some (digits, rest)) :
    IsNumber digits ∧ s = ':' :: (digits ++ rest) := by
  unfold readNumber? at h
  split at h
  case h_1 tail =>
    dsimp only at h
    split at h
    · exact absurd h nofun
    case isFalse hne =>
      obtain ⟨rfl, rfl⟩ := Prod.mk.inj (Option.some.inj h)
      refine ⟨⟨fun hnil => hne (List.isEmpty_iff.mpr hnil), ?_⟩, ?_⟩
      · exact List.all_eq_true.mp List.all_takeWhile
      · rw [List.takeWhile_append_dropWhile]
  case h_2 => exact absurd h nofun

/-- No word for a severity begins with another one. -/
lemma readSeverity?_eq (h : (word, severity) ∈ severityWords) :
    readSeverity? (word ++ rest) = some (severity, rest) := by
  simp only [severityWords, List.mem_cons, List.not_mem_nil, or_false, Prod.mk.injEq] at h
  rcases h with ⟨rfl, rfl⟩ | ⟨rfl, rfl⟩ | ⟨rfl, rfl⟩ <;> rfl

/-- A severity is read from one of the words for severities. -/
lemma exists_of_readSeverity? (h : readSeverity? s = some (severity, rest)) :
    ∃ word, (word, severity) ∈ severityWords ∧ s = word ++ rest := by
  obtain ⟨⟨word, severity⟩, hfind, hpair⟩ := Option.map_eq_some_iff.mp h
  obtain ⟨rfl, rfl⟩ := Prod.mk.inj hpair
  have hstart := List.find?_some hfind
  have hprefix : word <+: s := List.isPrefixOf_iff_prefix.mp hstart
  exact ⟨word, List.mem_of_find?_eq_some hfind, (List.prefix_iff_eq_append.mp hprefix).symm⟩

/-- No word for a severity begins with a blank. -/
lemma head_severityWord (h : (word, severity) ∈ severityWords) :
    ∀ c ∈ (word ++ rest).head?, isBlank c = false := by
  simp only [severityWords, List.mem_cons, List.not_mem_nil, or_false, Prod.mk.injEq] at h
  rcases h with ⟨rfl, rfl⟩ | ⟨rfl, rfl⟩ | ⟨rfl, rfl⟩ <;>
  · intro c hc
    obtain rfl := Option.some.inj hc
    decide

/-! ## Messages -/

/-- Blanks in front of a text do not count. -/
lemma strip_append {margin : List Char} (h : ∀ c ∈ margin, isBlank c = true) (s : List Char) :
    strip (margin ++ s) = strip s := by
  unfold strip trimWhile
  rw [List.dropWhile_append_of_pos h]

/-- A message is read without the blanks around it, and without the line break that ends it. -/
lemma readMessage?_eq {margin body ending : List Char} (hmargin : ∀ c ∈ margin, isBlank c = true)
    (hbody : '\n' ∉ body) (hending : ending = [] ∨ ending = ['\n']) :
    readMessage? (margin ++ (body ++ ending)) = some (strip body) := by
  have hsplit : body = body.takeWhile isBlank ++ body.dropWhile isBlank :=
    List.takeWhile_append_dropWhile.symm
  have hblank : ∀ c ∈ body.takeWhile isBlank, isBlank c = true := fun c => List.mem_takeWhile_imp
  have hrest : '\n' ∉ body.dropWhile isBlank := fun h =>
    hbody ((List.dropWhile_suffix isBlank).subset h)
  have hstrip : strip body = strip (body.dropWhile isBlank) := by
    conv_lhs => rw [hsplit]
    exact strip_append hblank _
  have hdrop : (margin ++ (body ++ ending)).dropWhile isBlank =
      (body.dropWhile isBlank ++ ending).dropWhile isBlank := by
    conv_lhs => rw [hsplit]
    rw [List.append_assoc, List.dropWhile_append_of_pos hmargin, List.dropWhile_append_of_pos hblank]
  rw [hstrip]
  unfold readMessage?
  dsimp only
  rw [hdrop]
  cases hinner : body.dropWhile isBlank with
  | nil =>
    -- the line break is a blank too
    have hnone : ([] ++ ending).dropWhile isBlank = [] := by
      rcases hending with rfl | rfl <;> decide
    rw [hnone]
    rfl
  | cons c inner =>
    have hc : ¬ isBlank c = true := by
      have hhead := List.head_dropWhile_not isBlank (l := body) (by rw [hinner]; exact List.cons_ne_nil _ _)
      simpa [hinner] using hhead
    rw [hinner] at hrest
    rw [List.cons_append, List.dropWhile_cons_of_neg hc, ← List.cons_append]
    have hbreak : ∀ d ∈ ending.head?, (d != '\n') = false := by
      intro d hd
      rcases hending with rfl | rfl
      · cases hd
      · obtain rfl := Option.some.inj hd
        rfl
    obtain ⟨htake, hdropped⟩ := takeWhile_dropWhile_append
      (fun d hd => bne_iff_ne.mpr (ne_of_mem_of_not_mem hd hrest)) hbreak
    rw [htake, hdropped, if_pos hending]

/-- A message is what a line goes on with, up to its end and without the blanks around it. -/
lemma exists_of_readMessage? {message : List Char} (h : readMessage? s = some message) :
    ∃ margin body ending, (∀ c ∈ margin, isBlank c = true) ∧ '\n' ∉ body ∧
      (ending = [] ∨ ending = ['\n']) ∧ s = margin ++ (body ++ ending) ∧ message = strip body := by
  unfold readMessage? at h
  dsimp only at h
  split at h
  case isTrue hending =>
    obtain rfl := Option.some.inj h
    refine ⟨s.takeWhile isBlank, _, _, fun c => List.mem_takeWhile_imp, fun hmem => ?_, hending, ?_, rfl⟩
    · exact absurd (List.mem_takeWhile_imp hmem) (by decide)
    · rw [List.takeWhile_append_dropWhile, List.takeWhile_append_dropWhile]
  case isFalse => exact absurd h nofun

/-! ## What stands behind the path -/

variable {l : LocatedLine}

/-- What is read behind a path is as the description of such a line says. -/
lemma afterPath_of_readAfterPath? (h : readAfterPath? s = some l) : AfterPath s l := by
  unfold readAfterPath? at h
  obtain ⟨⟨line, afterLine⟩, hreadLine, h⟩ := Option.bind_eq_some_iff.mp h
  obtain ⟨⟨column, afterColumn⟩, hreadColumn, h⟩ := Option.bind_eq_some_iff.mp h
  obtain ⟨hline, hs⟩ := exists_of_readNumber? hreadLine
  obtain ⟨hcolumn, hafterLine⟩ := exists_of_readNumber? hreadColumn
  dsimp only at h hafterLine
  split at h
  case h_1 tail =>
    obtain ⟨⟨severity, afterSeverity⟩, hreadSeverity, h⟩ := Option.bind_eq_some_iff.mp h
    obtain ⟨message, hreadMessage, h⟩ := Option.bind_eq_some_iff.mp h
    obtain rfl := Option.some.inj h
    obtain ⟨word, hword, htail⟩ := exists_of_readSeverity? hreadSeverity
    obtain ⟨margin, body, ending, hmargin, hbody, hending, hsplit, rfl⟩ :=
      exists_of_readMessage? hreadMessage
    dsimp only at hsplit
    rw [hs, hafterLine, ← List.takeWhile_append_dropWhile (p := isBlank) (l := tail), htail, hsplit]
    exact .intro hline hcolumn (fun c => List.mem_takeWhile_imp) hword hmargin hbody hending
  case h_2 => exact absurd h nofun

/-- What is as the description says is read so. -/
lemma readAfterPath?_of_afterPath (h : AfterPath s l) : readAfterPath? s = some l := by
  cases h with
  | @intro line column gap word margin body ending severity isLine isColumn isGap isWord isMargin isBody
      isEnding =>
    have hcolon : isDigit ':' = false := isDigit_of_ascii (by decide)
    have hhead : ∀ rest : List Char, ∀ c ∈ (':' :: rest).head?, isDigit c = false := by
      intro rest c hc
      obtain rfl := Option.some.inj hc
      exact hcolon
    have hgap : (gap ++ (word ++ (margin ++ (body ++ ending)))).dropWhile isBlank =
        word ++ (margin ++ (body ++ ending)) :=
      (takeWhile_dropWhile_append isGap (head_severityWord isWord)).2
    unfold readAfterPath?
    rw [readNumber?_eq isLine (hhead _)]
    dsimp only [Option.bind_eq_bind, Option.bind_some]
    rw [readNumber?_eq isColumn (hhead _)]
    simp only [Option.bind_some, hgap, readSeverity?_eq isWord, readMessage?_eq isMargin isBody isEnding]
    rfl

/-- What stands behind the path is read if it has the form. -/
theorem readAfterPath?_eq_some_iff : readAfterPath? s = some l ↔ AfterPath s l :=
  ⟨afterPath_of_readAfterPath?, readAfterPath?_of_afterPath⟩

/-- Where nothing is read behind a path, nothing is as the description says. -/
lemma not_afterPath (h : readAfterPath? s = none) (l : LocatedLine) : ¬ AfterPath s l := by
  intro hl
  rw [readAfterPath?_eq_some_iff.mpr hl] at h
  exact absurd h nofun

end readers

/-! ## Lines -/

section lines

variable {s path : List Char} {l : LocatedLine} {c : Char}

/-- Behind the empty path stands the line itself; a longer path begins with the first character of the
line, which is no line break. -/
lemma locates_cons_iff :
    Locates (c :: s) path l ↔ (path = [] ∧ AfterPath (c :: s) l) ∨
      c ≠ '\n' ∧ ∃ tail, path = c :: tail ∧ Locates s tail l := by
  constructor
  · rintro ⟨rest, hsplit, hbreak, hrest⟩
    cases path with
    | nil => exact .inl ⟨rfl, hsplit ▸ hrest⟩
    | cons d tail =>
      obtain ⟨rfl, rfl⟩ := List.cons.inj hsplit
      rw [List.mem_cons, not_or] at hbreak
      exact .inr ⟨Ne.symm hbreak.1, tail, rfl, rest, rfl, hbreak.2, hrest⟩
  · rintro (⟨rfl, hrest⟩ | ⟨hc, tail, rfl, rest, rfl, hbreak, hrest⟩)
    · exact ⟨c :: s, rfl, List.not_mem_nil, hrest⟩
    · refine ⟨rest, rfl, ?_, hrest⟩
      rw [List.mem_cons, not_or]
      exact ⟨hc.symm, hbreak⟩

/-- The empty line locates nothing. -/
lemma not_locates_nil : ¬ Locates [] path l := by
  rintro ⟨rest, hsplit, -, hrest⟩
  obtain ⟨-, rfl⟩ := List.append_eq_nil_iff.mp hsplit.symm
  cases hrest

/-- **No problem is missed.** A line is read as naming no place only if it names none behind any path. -/
theorem LocatedLine.read?_eq_none_iff :
    LocatedLine.read? s = none ↔ ∀ path l, ¬ Locates s path l := by
  induction s with
  | nil => exact iff_of_true rfl fun _ _ => not_locates_nil
  | cons c s ih =>
    rw [LocatedLine.read?]
    cases hread : readAfterPath? (c :: s) with
    | some l =>
      have hl := readAfterPath?_eq_some_iff.mp hread
      exact iff_of_false nofun fun hnone => hnone [] l (locates_cons_iff.mpr (.inl ⟨rfl, hl⟩))
    | none =>
      have hhere := not_afterPath hread
      dsimp only
      constructor
      · intro h path l hl
        rcases locates_cons_iff.mp hl with ⟨-, hl⟩ | ⟨hc, tail, -, hl⟩
        · exact hhere l hl
        · rw [if_neg hc] at h
          exact ih.mp h tail l hl
      · intro h
        split
        case isTrue => rfl
        case isFalse hc =>
          exact ih.mpr fun path l hl => h (c :: path) l (locates_cons_iff.mpr (.inr ⟨hc, path, rfl, hl⟩))

/-- What is named behind the shortest path of a line is named behind the shortest path of the rest, if
the line itself does not begin with it. -/
lemma names_cons_iff (h : ∀ l, ¬ AfterPath (c :: s) l) : Names (c :: s) l ↔ c ≠ '\n' ∧ Names s l := by
  constructor
  · rintro ⟨path, hpath, hshort⟩
    rcases locates_cons_iff.mp hpath with ⟨-, hl⟩ | ⟨hc, tail, rfl, htail⟩
    · exact absurd hl (h l)
    · refine ⟨hc, tail, htail, fun path' l' hpath' => ?_⟩
      exact Nat.le_of_succ_le_succ (hshort (c :: path') l' (locates_cons_iff.mpr (.inr ⟨hc, path', rfl, hpath'⟩)))
  · rintro ⟨hc, path, hpath, hshort⟩
    refine ⟨c :: path, locates_cons_iff.mpr (.inr ⟨hc, path, rfl, hpath⟩), fun path' l' hpath' => ?_⟩
    rcases locates_cons_iff.mp hpath' with ⟨-, hl⟩ | ⟨-, tail, rfl, htail⟩
    · exact absurd hl (h l')
    · exact Nat.succ_le_succ (hshort tail l' htail)

/-- What stands at the front of a line is named behind the empty path, which is the shortest. -/
lemma names_iff_of_afterPath {found : LocatedLine} (h : AfterPath s found) : Names s l ↔ l = found := by
  have hempty : ∀ l, Locates s [] l ↔ AfterPath s l := by
    intro l
    constructor
    · rintro ⟨rest, rfl, -, hl⟩
      exact hl
    · exact fun hl => ⟨s, rfl, List.not_mem_nil, hl⟩
  constructor
  · rintro ⟨path, hpath, hshort⟩
    have hlength := hshort [] found ((hempty found).mpr h)
    obtain rfl := List.length_eq_zero_iff.mp (Nat.le_zero.mp hlength)
    have hl := (hempty l).mp hpath
    rw [← readAfterPath?_eq_some_iff] at h hl
    exact Option.some.inj (hl.symm.trans h)
  · rintro rfl
    exact ⟨[], (hempty l).mpr h, fun _ _ _ => Nat.zero_le _⟩

/-- **The shortest path counts.** Reading a line finds the problem that it names. -/
theorem LocatedLine.read?_eq_some_iff : LocatedLine.read? s = some l ↔ Names s l := by
  induction s with
  | nil => exact iff_of_false nofun fun ⟨_, hpath, _⟩ => not_locates_nil hpath
  | cons c s ih =>
    rw [LocatedLine.read?]
    cases hread : readAfterPath? (c :: s) with
    | some found =>
      rw [names_iff_of_afterPath (readAfterPath?_eq_some_iff.mp hread)]
      exact ⟨fun h => (Option.some.inj h).symm, fun h => congrArg some h.symm⟩
    | none =>
      have hhere := not_afterPath hread
      rw [names_cons_iff hhere]
      dsimp only
      split
      case isTrue hc => exact iff_of_false nofun fun h => h.1 hc
      case isFalse hc => exact ih.trans (iff_and_self.mpr fun _ => hc)

end lines

end Diagnosis.Compiler
