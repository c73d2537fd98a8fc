import Diagnosis.Proofs.Analysis.Tool
import Diagnosis.Proofs.Compiler.Line
import Diagnosis.Proofs.Lists
import Diagnosis.Proofs.Secret.Hygiene
import Diagnosis.Proofs.Steps
import Diagnosis.Proofs.Text.Lines
import Diagnosis.Proofs.Text.Search
import Mathlib.Data.List.Forall2

/-!
# What becomes of the output of a compiler

Each line that speaks of an error or a warning gives one diagnostic, and no other line gives any
(`readLine_spec`). `Reports` says what the diagnostic has to do with its line, and leaves open how the line
is read.

* **No line is lost or invented** (`readOutput_reports`): if no number is too long, the diagnostics are
  those of the lines that speak of a problem, one each and in order.
* **Colours make no difference** (`readLine_coloured`): a line is read as the same line without colours is. Where
  they keep the digits of a number apart, it may be too long without them (`readOutput_twoColoured`).
* **The path stays hidden** (`path_not_infix_message`): where a line names no place, its diagnostic does
  not show the path of the file. Where it names one, the diagnostic shows what the compiler says there, so
  a path in that is shown as well.
-/

namespace Diagnosis.Compiler

open Diagnosis.Text Diagnosis.Report Diagnosis.Explain

/-! ## Lines and diagnostics -/

/-- Whether a line speaks of an error or a warning. -/
def Speaks (s : List Char) : Prop := "error:".toList <:+: s ∨ "warning:".toList <:+: s

instance (s : List Char) : Decidable (Speaks s) := inferInstanceAs (Decidable (_ ∨ _))

/-- What a diagnostic has to do with its line. -/
inductive Reports (naming : Naming) (s : List Char) (d : Diagnostic) : Prop where
  /-- It is about the place that the line names. -/
  | located (l : LocatedLine) (names : Names s l) (line : readWhole l.line = .ok d.line)
      (column : readWhole l.column = .ok d.column) (severity : d.severity = l.severity)
      (message : d.message = String.ofList l.message)
  /-- The line names no place, and is shown under the name of the text. -/
  | unlocated (unnamed : ∀ path l, ¬ Locates s path l) (line : d.line = 0) (column : d.column = 0)
      (severity : d.severity = .error ↔ "error:".toList <:+: s)
      (message : d.message = String.ofList (naming.apply (strip s)))

/-- Whether a diagnostic names the compiler as its source and explains itself. -/
structure IsExplained (d : Diagnostic) : Prop where
  rule : d.rule = .string "g++-compilation"
  explanation : d.explanation ≠ ""
  suggestion : d.suggestion ≠ ""

/-- A line that names a place speaks of a problem. -/
lemma Locates.speaks {s path : List Char} {l : LocatedLine} (h : Locates s path l) : Speaks s := by
  obtain ⟨rest, rfl, -, hrest⟩ := h
  cases hrest with
  | @intro line column gap word margin body ending severity _ _ _ isWord _ _ _ =>
    have hword : word <:+: path ++ ':' :: (line ++ ':' :: (column ++ ':' ::
        (gap ++ (word ++ (margin ++ (body ++ ending)))))) :=
      ⟨path ++ ':' :: (line ++ ':' :: (column ++ ':' :: gap)), margin ++ (body ++ ending), by simp⟩
    have hspoken : "error:".toList <:+: word ∨ "warning:".toList <:+: word := by
      simp only [severityWords, List.mem_cons, List.not_mem_nil, or_false, Prod.mk.injEq] at isWord
      rcases isWord with ⟨rfl, -⟩ | ⟨rfl, -⟩ | ⟨rfl, -⟩ <;> decide
    exact hspoken.imp (·.trans hword) (·.trans hword)

/-- Every explanation of the table says something, and so does the generic one. -/
lemma lookup_ne_empty (rule : Option String) (message : String) :
    (lookup rule message).explanation ≠ "" ∧ (lookup rule message).suggestion ≠ "" := by
  have htable : ∀ entry ∈ table, entry.2.explanation ≠ "" ∧ entry.2.suggestion ≠ "" := by
    decide
  have hgeneric : generic.explanation ≠ "" ∧ generic.suggestion ≠ "" := by decide
  unfold lookup lookupIn
  split
  case h_1 e he =>
    obtain ⟨name, -, hlookup⟩ := Option.bind_eq_some_iff.mp he
    obtain ⟨before, after, hsplit, -⟩ := List.lookup_eq_some_iff.mp hlookup
    exact htable (name, e) (hsplit ▸ List.mem_append_right _ List.mem_cons_self)
  case h_2 =>
    split
    case h_1 entry hentry => exact htable entry (List.mem_of_find?_eq_some hentry)
    case h_2 => exact hgeneric

/-- Diagnostics of a compiler carry the explanation that the table has for them. -/
lemma isExplained_problem (severity : Severity) (message : String) (line column : Int)
    (category : Option String) : IsExplained (problem severity message line column category) := by
  obtain ⟨hexplanation, hsuggestion⟩ := lookup_ne_empty (some ruleName) message
  exact ⟨rfl, hexplanation, hsuggestion⟩

/-- A line that names a place gives a diagnostic at that place. -/
lemma reports_located {naming : Naming} {s : List Char} {l : LocatedLine} {d : Diagnostic}
    (hl : Names s l) (h : l.problem = .ok d) : Reports naming s d ∧ IsExplained d := by
  unfold LocatedLine.problem at h
  cases hline : readWhole l.line with
  | error fault =>
    rw [hline] at h
    exact absurd h nofun
  | ok line =>
    cases hcolumn : readWhole l.column with
    | error fault =>
      rw [hline, hcolumn] at h
      exact absurd h nofun
    | ok column =>
      rw [hline, hcolumn] at h
      obtain rfl := Except.ok.inj h
      exact ⟨.located l hl hline hcolumn rfl rfl, isExplained_problem _ _ _ _ _⟩

/-- What a line is taken for tells whether it speaks of a problem, and of an error. -/
lemma spokenSeverity?_spec (s : List Char) :
    (∃ severity, spokenSeverity? s = some severity ∧ Speaks s ∧
      (severity = .error ↔ "error:".toList <:+: s)) ∨ spokenSeverity? s = none ∧ ¬ Speaks s := by
  unfold spokenSeverity? Speaks
  simp only [occurs_iff]
  by_cases herror : "error:".toList <:+: s
  · rw [if_pos herror]
    exact .inl ⟨.error, rfl, .inl herror, iff_of_true rfl herror⟩
  · rw [if_neg herror]
    by_cases hwarning : "warning:".toList <:+: s
    · rw [if_pos hwarning]
      exact .inl ⟨.warning, rfl, .inr hwarning, iff_of_false nofun herror⟩
    · rw [if_neg hwarning]
      exact .inr ⟨rfl, fun h => h.elim herror hwarning⟩

/-- **One line.** A line that speaks of a problem gives a diagnostic, which reports it; any other gives
none. -/
theorem readLine_spec {naming : Naming} {raw : List Char} {found : Option Diagnostic}
    (h : readLine naming raw = .ok found) :
    (∃ d, found = some d ∧ Speaks (Secret.sanitize raw) ∧ Reports naming (Secret.sanitize raw) d ∧
      IsExplained d) ∨ found = none ∧ ¬ Speaks (Secret.sanitize raw) := by
  unfold readLine at h
  generalize Secret.sanitize raw = s at h
  dsimp only at h
  split at h
  case h_1 l hread =>
    have hnames := LocatedLine.read?_eq_some_iff.mp hread
    have hspeaks : Speaks s := by
      obtain ⟨path, hpath, -⟩ := hnames
      exact hpath.speaks
    cases hproblem : l.problem with
    | error fault =>
      rw [hproblem] at h
      exact absurd h nofun
    | ok d =>
      rw [hproblem] at h
      obtain rfl := Except.ok.inj h
      obtain ⟨hreports, hexplained⟩ := reports_located hnames hproblem
      exact .inl ⟨d, rfl, hspeaks, hreports, hexplained⟩
  case h_2 hread =>
    have hunnamed := LocatedLine.read?_eq_none_iff.mp hread
    obtain rfl := Except.ok.inj h
    rcases spokenSeverity?_spec s with ⟨severity, hspoken, hspeaks, hseverity⟩ | ⟨hspoken, hsilent⟩
    · rw [hspoken]
      refine .inl ⟨_, rfl, hspeaks, ?_, isExplained_problem _ _ _ _ _⟩
      exact .unlocated hunnamed rfl rfl hseverity rfl
    · rw [hspoken]
      exact .inr ⟨rfl, hsilent⟩

/-! ## The whole output -/

/-- What is read from the output of a compiler are the diagnostics of the lines that speak of a problem. -/
theorem reports_of_readOutput {naming : Naming} {output : String} {ds : List Diagnostic}
    (h : readOutput naming output = .ok ds) :
    List.Forall₂ (fun raw d => Reports naming (Secret.sanitize raw) d ∧ IsExplained d)
      ((lines output.toList).filter fun raw => Speaks (Secret.sanitize raw)) ds := by
  unfold readOutput at h
  cases hfound : (lines output.toList).mapM (readLine naming) with
  | error fault =>
    rw [hfound] at h
    exact absurd h nofun
  | ok found =>
    rw [hfound] at h
    obtain rfl := Except.ok.inj h
    exact forall₂_filter (forall₂_of_mapM hfound) fun raw found hread => readLine_spec hread

/-- **No line is lost or invented.** If no number in a line is too long, colours and control characters
left out, then the output of a compiler is read; its diagnostics belong to the lines that speak of an
error or a warning, one each and in order. -/
theorem readOutput_reports (naming : Naming) (output : String)
    (hruns : ∀ raw ∈ lines output.toList, ∀ n, HasRun isDigit n (Secret.sanitize raw) →
      n ≤ numeralLimit) :
    ∃ ds, readOutput naming output = .ok ds ∧
      List.Forall₂ (fun raw d => Reports naming (Secret.sanitize raw) d ∧ IsExplained d)
        ((lines output.toList).filter fun raw => Speaks (Secret.sanitize raw)) ds := by
  rcases readOutput_cases naming output with ⟨ds, hds⟩ | ⟨raw, hraw, fault, ⟨n, hn, hrun, -⟩, -⟩
  · exact ⟨ds, hds, reports_of_readOutput hds⟩
  · exact absurd (hruns raw hraw n hrun) (Nat.not_le.mpr hn)

/-- A problem with a place and one without, between lines that speak of neither. -/
def sampleOutput : String := "a.cpp: In function f:\na.cpp:4:5: fatal error: no\n  4 | x\ncc1: warning: odd\n"

/-- Two of four lines give a diagnostic. -/
theorem readOutput_reports_sample :
    (∀ raw ∈ lines sampleOutput.toList, ∀ n, HasRun isDigit n (Secret.sanitize raw) →
      n ≤ numeralLimit) ∧
    ∃ ds, readOutput {} sampleOutput = .ok ds ∧
      List.Forall₂ (fun raw d => Reports {} (Secret.sanitize raw) d ∧ IsExplained d)
        ["a.cpp:4:5: fatal error: no".toList, "cc1: warning: odd".toList] ds := by
  have hshort : ∀ raw ∈ lines sampleOutput.toList, (Secret.sanitize raw).length ≤ numeralLimit := by
    decide +kernel
  have hruns : ∀ raw ∈ lines sampleOutput.toList, ∀ n, HasRun isDigit n (Secret.sanitize raw) →
      n ≤ numeralLimit := fun raw hraw n hrun => hrun.le_length.trans (hshort raw hraw)
  have hlines : ((lines sampleOutput.toList).filter fun raw => Speaks (Secret.sanitize raw)) =
      ["a.cpp:4:5: fatal error: no".toList, "cc1: warning: odd".toList] := by
    decide +kernel
  obtain ⟨ds, hds, hreports⟩ := readOutput_reports {} sampleOutput hruns
  exact ⟨hruns, ds, hds, hlines ▸ hreports⟩

/-! ## Colours -/

/-- **Colours make no difference.** Wherever in a line without escape characters a compiler puts colour sequences,
and however many, the line is read as it is without them, whatever comes of that: a diagnostic, none, or a number
that is too long. -/
theorem readLine_coloured (naming : Naming) {plain coloured : List Char}
    (hplain : Secret.escapeChar ∉ plain) (h : Secret.Coloured plain coloured) :
    readLine naming coloured = readLine naming plain := by
  rw [readLine, readLine, Secret.sanitize_of_coloured hplain h]

/-- Colours in a path, in a number and in words, in front of characters that colour sequences have as well. -/
theorem readLine_coloured_words :
    let plain := "m;1.cpp:12:3: error: 0;1mK".toList
    let coloured := ("\x1b[1mm;1\x1b[K.cpp:1\x1b[01;31m2:3: er\x1b[;mror: " ++
      "\x1b[m\x1b[K0;1mK\x1b[m").toList
    Secret.escapeChar ∉ plain ∧ Secret.Coloured plain coloured ∧
      readLine {} coloured = .ok (some (problem .error "0;1mK" 12 3 none)) := by
  intro plain coloured
  have hplain : Secret.escapeChar ∉ plain := by decide
  have hcoloured : Secret.Coloured plain coloured :=
    (Secret.stripColours_eq_iff hplain).mp (by decide +kernel)
  have hread : LocatedLine.read? (Secret.sanitize plain) =
      some ⟨Nat.toDigits 10 12, Nat.toDigits 10 3, .error, "0;1mK".toList⟩ := by
    decide +kernel
  refine ⟨hplain, hcoloured, ?_⟩
  rw [readLine_coloured {} hplain hcoloured, readLine, hread]
  dsimp only [LocatedLine.problem]
  rw [readWhole_toDigits (by decide), readWhole_toDigits (by decide)]
  rfl

/-! ### Numbers that colours join -/

/-- A line whose first number is in two colours. -/
def twoColoured (front back : List Char) : List Char :=
  ("x:".toList ++ front) ++ Secret.escapeChar :: '[' :: 'm' :: (back ++ ":1: error:".toList)

section colour

variable {front back digits : List Char}

/-- What a computation says of all characters of a text. -/
lemma eq_false_of_all {p : Char → Bool} {s : List Char} (h : s.all (!p ·) = true) :
    ∀ c ∈ s, p c = false := by
  intro c hc
  have hnot := List.all_eq_true.mp h c hc
  rwa [Bool.not_eq_true'] at hnot

/-- Two numbers make a number, one behind the other. -/
lemma isNumber_append (hfront : IsNumber front) (hback : IsNumber back) : IsNumber (front ++ back) := by
  refine ⟨List.append_ne_nil_of_left_ne_nil hfront.1 back, fun c hc => ?_⟩
  exact (List.mem_append.mp hc).elim (hfront.2 c) (hback.2 c)

/-- Without the colours the number is one. -/
lemma sanitize_twoColoured (hfront : IsNumber front) (hback : IsNumber back) :
    Secret.sanitize (twoColoured front back) = 'x' :: ':' :: (front ++ back ++ ":1: error:".toList) := by
  have hbefore : ∀ c ∈ "x:".toList ++ front, Secret.isControl c = false := by
    rw [List.forall_mem_append]
    exact ⟨eq_false_of_all (by decide), fun c hc => Secret.isControl_of_isDigit (hfront.2 c hc)⟩
  have hbehind : ∀ c ∈ back ++ ":1: error:".toList, Secret.isControl c = false := by
    rw [List.forall_mem_append]
    exact ⟨fun c hc => Secret.isControl_of_isDigit (hback.2 c hc), eq_false_of_all (by decide)⟩
  rw [twoColoured, Secret.sanitize_append_reset hbefore hbehind, List.append_assoc front]
  rfl

/-- A line may name any number. -/
lemma names_number (h : IsNumber digits) :
    Names ('x' :: ':' :: (digits ++ ":1: error:".toList)) ⟨digits, ['1'], .error, []⟩ := by
  have hone : IsNumber ['1'] := by
    refine ⟨List.cons_ne_nil _ _, fun c hc => ?_⟩
    obtain rfl := List.mem_singleton.mp hc
    exact isDigit_of_ascii (by decide)
  have hgap : ∀ c ∈ [' '], isBlank c = true := by
    intro c hc
    obtain rfl := List.mem_singleton.mp hc
    rfl
  have hafter : AfterPath (':' :: (digits ++ ':' :: (['1'] ++ ':' :: ([' '] ++ ("error:".toList ++
      ([] ++ ([] ++ []))))))) ⟨digits, ['1'], .error, strip []⟩ :=
    .intro h hone hgap (by decide) (List.forall_mem_nil _) List.not_mem_nil (.inl rfl)
  have hread : readAfterPath? (':' :: (digits ++ ":1: error:".toList)) =
      some ⟨digits, ['1'], .error, []⟩ := readAfterPath?_eq_some_iff.mpr hafter
  rw [← LocatedLine.read?_eq_some_iff, LocatedLine.read?, LocatedLine.read?, hread]
  rfl

/-- No digit ends a line, since only blanks do. -/
lemma isLineBoundary_of_isDigit {c : Char} (h : isDigit c = true) : isLineBoundary c = false := by
  rw [Bool.eq_false_iff]
  intro hboundary
  have hblank : isBlank c = true := by
    simp only [isLineBoundary, isBlank, Bool.or_eq_true, Bool.and_eq_true, decide_eq_true_eq]
      at hboundary ⊢
    omega
  exact Bool.false_ne_true ((not_isBlank_of_isDigit h).symm.trans hblank)

/-- The colours do not break the line. -/
lemma lines_twoColoured (hfront : IsNumber front) (hback : IsNumber back) :
    lines (twoColoured front back) = [twoColoured front back] := by
  refine lines_eq_singleton (List.cons_ne_nil _ _) ?_
  rw [twoColoured, List.forall_mem_append, List.forall_mem_append, List.forall_mem_cons,
    List.forall_mem_cons, List.forall_mem_cons, List.forall_mem_append]
  exact ⟨⟨eq_false_of_all (by decide), fun c hc => isLineBoundary_of_isDigit (hfront.2 c hc)⟩, rfl, rfl,
    rfl, fun c hc => isLineBoundary_of_isDigit (hback.2 c hc), eq_false_of_all (by decide)⟩

/-- **Colours can make a number too long.** If a number is in two colours, then the digits of both count
as one number, even if neither is too long. -/
theorem readOutput_twoColoured (naming : Naming) (hfront : IsNumber front) (hback : IsNumber back)
    (hlong : numeralLimit < (front ++ back).length) :
    readOutput naming (String.ofList (twoColoured front back)) =
      .error (.tooLong (front ++ back).length) := by
  have hnumber := isNumber_append hfront hback
  have hread : readWhole (front ++ back) = .error (.tooLong (front ++ back).length) := by
    rcases readWhole_digits hnumber.1 hnumber.2 with ⟨hshort, -⟩ | ⟨-, hread⟩
    · exact absurd hlong (Nat.not_lt.mpr hshort)
    · exact hread
  have hline : readLine naming (twoColoured front back) = .error (.tooLong (front ++ back).length) := by
    unfold readLine
    dsimp only
    rw [sanitize_twoColoured hfront hback, LocatedLine.read?_eq_some_iff.mpr (names_number hnumber)]
    dsimp only [LocatedLine.problem]
    rw [hread]
    rfl
  unfold readOutput
  rw [String.toList_ofList, lines_twoColoured hfront hback, List.mapM_cons, hline]
  rfl

end colour

/-! ## The path of the file -/

/-- A path is gone where the name of the text stands in its place. -/
lemma not_infix_apply {path : String} (hslash : '/' ∈ path.toList) (hopening : '<' ∉ path.toList)
    (hclosing : '>' ∉ path.toList) (s : List Char) :
    ¬ path.toList <:+: Naming.apply ⟨path, "<text>"⟩ s := by
  have hne : path.toList ≠ [] := List.ne_nil_of_mem hslash
  have hempty : path.isEmpty = false := by
    rw [Bool.eq_false_iff]
    intro h
    rw [String.isEmpty_iff] at h
    rw [h] at hne
    exact hne rfl
  have hinner : ¬ path.toList <:+: "text".toList := fun h =>
    absurd (h.subset hslash) (by decide)
  have hname : "<text>".toList = '<' :: ("text".toList ++ ['>']) := by decide
  unfold Naming.apply
  dsimp only
  rw [hempty, hname]
  exact not_infix_replaceAll hne hopening hclosing hinner s

/-- **The path stays hidden.** A diagnostic of a line that names no place does not show the path of the
file that the compiler was given; one of a line that names a place shows the message there as it is. -/
theorem path_not_infix_message {path output : String} {ds : List Diagnostic}
    (hslash : '/' ∈ path.toList) (hopening : '<' ∉ path.toList) (hclosing : '>' ∉ path.toList)
    (h : readOutput ⟨path, "<text>"⟩ output = .ok ds) :
    List.Forall₂ (fun raw d =>
      ((∀ p l, ¬ Locates (Secret.sanitize raw) p l) ∧ ¬ path.toList <:+: d.message.toList) ∨
        ∃ l, Names (Secret.sanitize raw) l ∧ d.message = String.ofList l.message)
      ((lines output.toList).filter fun raw => Speaks (Secret.sanitize raw)) ds := by
  refine (reports_of_readOutput h).imp fun raw d hd => ?_
  cases hd.1 with
  | located l names _ _ _ message => exact .inr ⟨l, names, message⟩
  | unlocated unnamed _ _ _ message =>
    left
    rw [message, String.toList_ofList]
    exact ⟨unnamed, not_infix_apply hslash hopening hclosing _⟩

/-- The name of the text stands wherever the path does. -/
theorem path_not_infix_message_twice :
    ∃ ds, readOutput ⟨"/tmp/a.cpp", "<text>"⟩ "/tmp/a.cpp: error: /tmp/a.cpp" = .ok ds ∧
      ds.map (·.message) = ["<text>: error: <text>"] ∧
      List.Forall₂ (fun raw d =>
        ((∀ p l, ¬ Locates (Secret.sanitize raw) p l) ∧ ¬ "/tmp/a.cpp".toList <:+: d.message.toList) ∨
          ∃ l, Names (Secret.sanitize raw) l ∧ d.message = String.ofList l.message)
        ["/tmp/a.cpp: error: /tmp/a.cpp".toList] ds := by
  have hmessages : (readOutput ⟨"/tmp/a.cpp", "<text>"⟩ "/tmp/a.cpp: error: /tmp/a.cpp").toOption.map
      (·.map (·.message)) = some ["<text>: error: <text>"] := by
    decide +kernel
  have hlines : ((lines "/tmp/a.cpp: error: /tmp/a.cpp".toList).filter fun raw =>
      Speaks (Secret.sanitize raw)) = ["/tmp/a.cpp: error: /tmp/a.cpp".toList] := by
    decide +kernel
  cases hread : readOutput ⟨"/tmp/a.cpp", "<text>"⟩ "/tmp/a.cpp: error: /tmp/a.cpp" with
  | error fault =>
    rw [hread] at hmessages
    exact absurd hmessages nofun
  | ok ds =>
    rw [hread] at hmessages
    have hhidden := path_not_infix_message (by decide) (by decide) (by decide) hread
    exact ⟨ds, rfl, Option.some.inj hmessages, hlines ▸ hhidden⟩

example : (readOutput ⟨"/tmp/a.cpp", "<text>"⟩ "/tmp/a.cpp:4:5: error: see /tmp/a.cpp:3:1").toOption.map
    (·.map (·.message)) = some ["see /tmp/a.cpp:3:1"] := by
  decide +kernel

end Diagnosis.Compiler
