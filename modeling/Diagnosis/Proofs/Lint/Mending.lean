import Diagnosis.Proofs.Lint.RuleFix
import Mathlib.Logic.Relation

/-!
# Mending a text

A linter mends a text draft by draft. `Linter.Reaches` says which drafts the passes can come to, in
any number of passes; `Draft.Sound` is what all of them share: the draft is a text, it parses, and
its fixes are those of a run of the rules over it. One pass keeps that (`Draft.Sound.pass`), hence
every pass does (`Draft.Sound.reaches`).

* **Syntax is kept** (`lint_output_parses`): mending never breaks a text that parses, and leaves a
  text that does not parse alone, with one fatal message.
* **Mending is idempotent** (`lint_output_eq_self`): unless it ran out of passes, the mended text is
  mended into itself, and is clean if mending ended because nothing was left to mend.

Both ask one thing of the parser, that no node begins or ends inside a character (`Linter.Fits`).
-/

namespace Diagnosis.Lint

open Diagnosis.Text Diagnosis.Syntax

namespace Linter

/-- Whether the trees of all texts cut no character. -/
def Fits (l : Linter) : Prop := ∀ s, (l.parse (encode s)).Fits (encode s)

/-- Whether passes lead from one draft to another. -/
def Reaches (l : Linter) : Draft → Draft → Prop :=
  Relation.ReflTransGen fun d d' => l.pass d = .ok d'

/-- The draft with which mending begins. -/
def firstDraft (l : Linter) (source : String) : Draft :=
  .of (encodeString source) (l.verify (encodeString source))

/-- The draft with which mending ends, and why. -/
def lastDraft (l : Linter) (source : String) : Draft × Halt :=
  l.mendText (encodeString source) (l.verify (encodeString source))

variable (l : Linter)

/-- What counts as parsed is a tree without errors. -/
lemma parsed_verify (data : Bytes) : (l.verify data).parsed = !(l.parse data).hasError := by
  unfold verify verifyTree
  dsimp only
  split <;> simp_all

/-- A run of the rules, if they are already in the order of the text. -/
lemma verify_of_sorted {data : Bytes} {messages : List Message}
    (hparse : (l.parse data).hasError = false)
    (hrules : l.rules.flatMap (·.messages (.of (.ofBytes data) (l.parse data))) = messages)
    (hsorted : messages.Pairwise (Message.le · ·)) : l.verify data = ⟨messages, true⟩ := by
  unfold verify verifyTree
  dsimp only
  rw [if_neg (by rw [hparse]; decide), hrules, List.mergeSort_of_pairwise hsorted]

/-! ## One pass -/

variable {l} {d d' : Draft}

/-- What a pass that succeeds has done. -/
lemma pass_eq_ok (h : l.pass d = .ok d') :
    d'.data = (applyFixes d.data d.fixes).1 ∧ (l.parse d'.data).hasError = false ∧
      d' = .of d'.data (l.verify d'.data) := by
  unfold pass at h
  dsimp only at h
  -- the first three tests stop the pass, the last one lets it through
  split at h
  case isTrue => cases h
  split at h
  case isTrue => cases h
  split at h
  case isTrue => cases h
  split at h
  case isFalse => cases h
  case isTrue hparsed =>
    cases h
    rw [parsed_verify, Bool.not_eq_true'] at hparsed
    exact ⟨rfl, hparsed, rfl⟩

/-- When a pass succeeds. -/
lemma pass_of_applied {candidate : Bytes} {applied : Nat} (hfixes : d.fixes ≠ [])
    (happly : applyFixes d.data d.fixes = (candidate, applied)) (happlied : applied ≠ 0)
    (hne : candidate ≠ d.data) (hparsed : (l.verify candidate).parsed = true) :
    l.pass d = .ok (.of candidate (l.verify candidate)) := by
  unfold pass
  rw [if_neg (by simpa using hfixes), happly]
  dsimp only
  rw [if_neg happlied, if_neg hne, if_pos hparsed]

/-- A pass stops at a draft as clean exactly when the draft has no fixes. -/
lemma pass_eq_clean_iff : l.pass d = .error .clean ↔ d.fixes = [] := by
  unfold pass
  constructor
  · intro h
    split at h
    case isTrue hempty => exact List.isEmpty_iff.mp hempty
    case isFalse =>
      dsimp only at h
      split at h
      · cases h
      · split at h
        · cases h
        · split at h <;> cases h
  · intro h
    rw [if_pos (List.isEmpty_iff.mpr h)]

end Linter

/-- What all drafts have in common that come from a text that parses. -/
structure Draft.Sound (l : Linter) (d : Draft) : Prop where
  /-- The draft is a text. -/
  isText : IsText d.data
  /-- The text parses. -/
  parsed : (l.parse d.data).hasError = false
  /-- The fixes are those that the rules propose for the text. -/
  current : d = .of d.data (l.verify d.data)

namespace Draft.Sound

variable {l : Linter} {d d' : Draft}

/-- One pass over a sound draft gives a sound draft. -/
lemma pass (hl : l.Fits) (h : d.Sound l) (hpass : l.pass d = .ok d') : d'.Sound l := by
  obtain ⟨hdata, hparsed, hcurrent⟩ := Linter.pass_eq_ok hpass
  refine ⟨?_, hparsed, hcurrent⟩
  rw [hdata]
  refine isText_applyFixes h.isText fun f hf => ?_
  rw [h.current] at hf
  obtain ⟨rule, -, finding, hfinding, hfix⟩ := exists_of_mem_fixesOf hf
  obtain ⟨s, hs⟩ := h.isText
  have htree : (l.parse d.data).Fits d.data := hs ▸ hl s
  exact Check.fits_of_mem h.isText htree hfinding hfix

/-- All drafts that come from a sound draft are sound. -/
theorem reaches (hl : l.Fits) (h : d.Sound l) (hreach : l.Reaches d d') : d'.Sound l := by
  induction hreach with
  | refl => exact h
  | tail _ hpass ih => exact ih.pass hl hpass

end Draft.Sound

/-! ## All passes -/

namespace Linter

variable {l : Linter}

/-- Mending ends with a draft that passes come to. -/
lemma reaches_mend (passes : Nat) (d : Draft) : l.Reaches d (l.mend passes d).1 := by
  induction passes generalizing d with
  | zero => exact .refl
  | succ passes ih =>
    rw [mend]
    cases hpass : l.pass d with
    | ok next => exact .head hpass (ih next)
    | error halt => exact .refl

/-- Unless all passes are done, mending ends because a pass would stop. -/
lemma pass_mend (passes : Nat) (d : Draft) (h : (l.mend passes d).2 ≠ .spent) :
    l.pass (l.mend passes d).1 = .error (l.mend passes d).2 := by
  induction passes generalizing d with
  | zero =>
    rw [mend] at h ⊢
    dsimp only at h ⊢
    split at h
    case isTrue hempty =>
      rw [if_pos hempty]
      exact pass_eq_clean_iff.mpr (List.isEmpty_iff.mp hempty)
    case isFalse => exact absurd rfl h
  | succ passes ih =>
    rw [mend] at h ⊢
    cases hpass : l.pass d with
    | ok next =>
      rw [hpass] at h
      exact ih next h
    | error halt => exact hpass

/-- Mending leaves a draft alone at which a pass stops. -/
lemma mend_of_pass_eq_error {d : Draft} {halt : Halt} (h : l.pass d = .error halt) :
    l.mend passLimit d = (d, halt) := by
  rw [passLimit, mend, h]

/-- The first draft of a text that parses is sound. -/
lemma sound_firstDraft {source : String} (h : (l.parse (encodeString source)).hasError = false) :
    (l.firstDraft source).Sound l :=
  ⟨isText_encode _, h, rfl⟩

/-- A source that is parsed is mended, for so many passes at most. -/
lemma lastDraft_of_parsed {source : String} (h : (l.parse (encodeString source)).hasError = false) :
    l.lastDraft source = l.mend passLimit (l.firstDraft source) := by
  unfold lastDraft mendText
  dsimp only
  rw [if_pos (by rw [parsed_verify, h]; rfl)]
  rfl

/-- A source that is not parsed stays the first draft. -/
lemma lastDraft_of_unparsed {source : String} (h : (l.parse (encodeString source)).hasError = true) :
    l.lastDraft source = (l.firstDraft source, .unparsed) := by
  unfold lastDraft mendText
  dsimp only
  rw [if_neg (by rw [parsed_verify, h]; decide)]
  rfl

/-- Mending ends with a draft that passes come to, also if it ends at once. -/
lemma reaches_lastDraft (source : String) :
    l.Reaches (l.firstDraft source) (l.lastDraft source).1 := by
  cases h : (l.parse (encodeString source)).hasError with
  | true =>
    rw [lastDraft_of_unparsed h]
    exact .refl
  | false =>
    rw [lastDraft_of_parsed h]
    exact reaches_mend _ _

/-- The last draft of a source that is parsed is sound. -/
lemma sound_lastDraft (hl : l.Fits) {source : String}
    (h : (l.parse (encodeString source)).hasError = false) : (l.lastDraft source).1.Sound l :=
  (sound_firstDraft h).reaches hl (reaches_lastDraft source)

/-- The output is the text of the last draft. -/
lemma output_eq (source : String) :
    (l.lint source).output = decodeString (l.lastDraft source).1.data := rfl

/-- Reading and writing a text again changes no bytes. -/
lemma encodeString_decodeString {data : Bytes} (h : IsText data) :
    encodeString (decodeString data) = data := by
  rw [encodeString, decodeString, String.toList_ofList, h.encode_decode]

/-- Writing and reading a string again gives the string. -/
lemma decodeString_encodeString (s : String) : decodeString (encodeString s) = s := by
  rw [encodeString, decodeString, decode_encode, String.ofList_toList]

/-- The mended text is the last draft: nothing is lost when it is read. -/
lemma encodeString_output (hl : l.Fits) {source : String}
    (h : (l.parse (encodeString source)).hasError = false) :
    encodeString (l.lint source).output = (l.lastDraft source).1.data := by
  rw [output_eq, encodeString_decodeString (sound_lastDraft hl h).isText]

/-- A source that is not parsed has one message, which is fatal. -/
lemma messages_of_unparsed {source : String} (h : (l.parse (encodeString source)).hasError = true) :
    ∃ description start,
      (l.lint source).messages = [SyntaxError.fatal description start] := by
  unfold lint verify verifyTree
  dsimp only
  rw [if_pos h, SyntaxError.message_eq]
  exact ⟨_, _, rfl⟩

/-- A source that is parsed has no fatal message. -/
lemma fatal_of_parsed {source : String} (h : (l.parse (encodeString source)).hasError = false)
    {m : Message} (hm : m ∈ (l.lint source).messages) : m.fatal = false := by
  unfold lint verify verifyTree at hm
  dsimp only at hm
  rw [if_neg (by rw [h]; decide)] at hm
  obtain ⟨rule, -, hm⟩ := List.mem_flatMap.mp (List.mem_mergeSort.mp hm)
  obtain ⟨finding, -, rfl⟩ := List.mem_map.mp hm
  rfl

/-! ## A linter with one rule -/

/-- A linter that wants a semicolon, with a parser that knows one statement. -/
def sample : Linter where
  rules := [⟨.error, .semi .always⟩]
  parse data :=
    if data = encodeString "é" then
      { kind := "program", start := 0, stop := 2
        children := [{ kind := "expression_statement", start := 0, stop := 2
                       children := [{ kind := "identifier", start := 0, stop := 2 }] }] }
    else { kind := "program", start := 0, stop := data.length }

/-- The trees of the sample fit their texts. -/
lemma sample_fits : sample.Fits := by
  intro s
  unfold sample
  dsimp only
  split
  case isTrue h =>
    rw [h]
    refine Tree.fits_of_children (by decide) (by decide) fun c hc => ?_
    rw [List.mem_singleton.mp hc]
    refine Tree.fits_of_children (by decide) (by decide) fun c hc => ?_
    rw [List.mem_singleton.mp hc]
    exact Tree.fits_of_children (by decide) (by decide) (by simp)
  case isFalse => exact Tree.fits_of_children (isBoundary_zero (isText_encode s)) isBoundary_end (by simp)

/-- The sample wants a semicolon, and nothing else. -/
lemma verify_sample :
    sample.verify (encodeString "é") =
        ⟨[⟨some "semi", .error, "Missing semicolon.", ⟨1, 2⟩, none, false, some ⟨2, 2, [59]⟩⟩], true⟩ ∧
      sample.verify (encodeString "é;") = ⟨[], true⟩ := by
  constructor
  · exact verify_of_sorted _ (by decide +kernel) (by decide +kernel) (List.pairwise_singleton _ _)
  · exact verify_of_sorted _ (by decide +kernel) (by decide +kernel) .nil

/-- So mending it is done after one pass. -/
lemma lastDraft_sample : sample.lastDraft "é" = (⟨encodeString "é;", []⟩, .clean) := by
  obtain ⟨hfirst, hsecond⟩ := verify_sample
  have happly : applyFixes (encodeString "é") [⟨2, 2, [59]⟩] = (encodeString "é;", 1) := by
    rw [applyFixes, List.mergeSort_singleton]
    decide
  have hpass : sample.pass ⟨encodeString "é", [⟨2, 2, [59]⟩]⟩ = .ok ⟨encodeString "é;", []⟩ := by
    rw [pass_of_applied (by decide) happly (by decide) (by decide) (by rw [hsecond]), hsecond]
    rfl
  have hstop : sample.pass ⟨encodeString "é;", []⟩ = .error .clean := pass_eq_clean_iff.mpr rfl
  rw [lastDraft_of_parsed (by decide +kernel), firstDraft, hfirst]
  simp only [Draft.of, fixesOf, List.filterMap_cons, List.filterMap_nil]
  rw [passLimit, mend, hpass]
  dsimp only
  rw [mend, hstop]

/-! ## The mended text -/

/-- **Mending never breaks the syntax.** A text that does not parse gets one fatal message, without
rule and fix, and is left alone. A text that parses gets no fatal message; every draft that the
passes come to is a text; the mended text is one of these drafts, and reading loses nothing of it;
and it parses. -/
theorem lint_output_parses (l : Linter) (hl : l.Fits) (source : String) :
    ((l.parse (encodeString source)).hasError = true →
      (∃ m, (l.lint source).messages = [m] ∧ m.fatal = true ∧ m.rule = none ∧ m.fix = none) ∧
        (l.lint source).output = source) ∧
    ((l.parse (encodeString source)).hasError = false →
      (∀ m ∈ (l.lint source).messages, m.fatal = false) ∧
      (∀ d, l.Reaches (l.firstDraft source) d → IsText d.data) ∧
      l.Reaches (l.firstDraft source) (l.lastDraft source).1 ∧
      encodeString (l.lint source).output = (l.lastDraft source).1.data ∧
      (l.parse (encodeString (l.lint source).output)).hasError = false) := by
  refine ⟨fun h => ⟨?_, ?_⟩, fun h => ⟨fun m => fatal_of_parsed h, fun d hd => ?_, reaches_lastDraft source,
    ?_, ?_⟩⟩
  · obtain ⟨description, start, hmessages⟩ := messages_of_unparsed h
    exact ⟨_, hmessages, rfl, rfl, rfl⟩
  · rw [output_eq, lastDraft_of_unparsed h]
    exact decodeString_encodeString source
  · exact ((sound_firstDraft h).reaches hl hd).isText
  · exact encodeString_output hl h
  · rw [encodeString_output hl h]
    exact (sound_lastDraft hl h).parsed

/-- A missing semicolon behind a character of two bytes. -/
theorem lint_output_parses_sample :
    sample.Fits ∧ (sample.parse (encodeString "é")).hasError = false ∧
      (sample.lastDraft "é").1.data = encodeString "é;" ∧
      encodeString (sample.lint "é").output = (sample.lastDraft "é").1.data ∧
      (sample.parse (encodeString (sample.lint "é").output)).hasError = false := by
  have hparse : (sample.parse (encodeString "é")).hasError = false := by decide
  obtain ⟨-, -, -, houtput, hparsed⟩ := (lint_output_parses sample sample_fits "é").2 hparse
  exact ⟨sample_fits, hparse, by rw [lastDraft_sample], houtput, hparsed⟩

/-- **Mending is idempotent.** Unless mending ran out of passes, the mended text is mended into
itself; if nothing was left to mend, the rules propose no fix for it. -/
theorem lint_output_eq_self (l : Linter) (hl : l.Fits) (source : String)
    (hpasses : (l.lastDraft source).2 ≠ .spent) :
    (l.lint (l.lint source).output).output = (l.lint source).output ∧
      ((l.lastDraft source).2 = .clean →
        ∀ m ∈ (l.lint (l.lint source).output).messages, m.fix = none) := by
  cases h : (l.parse (encodeString source)).hasError with
  | true =>
    have hself : (l.lint source).output = source := by
      rw [output_eq, lastDraft_of_unparsed h]
      exact decodeString_encodeString source
    rw [hself, hself, lastDraft_of_unparsed h]
    exact ⟨rfl, fun hclean => by cases hclean⟩
  | false =>
    have hsound := sound_lastDraft hl h
    have hdata := encodeString_output hl h
    -- the second run begins with the draft with which the first one ended
    have hfirst : l.firstDraft (l.lint source).output = (l.lastDraft source).1 := by
      rw [firstDraft, hdata, ← hsound.current]
    have hstop : l.pass (l.lastDraft source).1 = .error (l.lastDraft source).2 := by
      rw [lastDraft_of_parsed h] at hpasses ⊢
      exact pass_mend _ _ hpasses
    refine ⟨?_, fun hclean m hm => ?_⟩
    · rw [output_eq, lastDraft_of_parsed (by rw [hdata]; exact hsound.parsed), hfirst,
        mend_of_pass_eq_error hstop, ← output_eq]
    · rw [hclean, pass_eq_clean_iff, hsound.current, ← hdata] at hstop
      exact List.filterMap_eq_nil_iff.mp hstop m hm

/-- The semicolon is not put in twice. -/
theorem lint_output_eq_self_sample :
    sample.Fits ∧ (sample.lastDraft "é").2 = .clean ∧
      (sample.lint (sample.lint "é").output).output = (sample.lint "é").output ∧
      ∀ m ∈ (sample.lint (sample.lint "é").output).messages, m.fix = none := by
  have hclean : (sample.lastDraft "é").2 = .clean := by rw [lastDraft_sample]
  obtain ⟨hself, hfix⟩ :=
    lint_output_eq_self sample sample_fits "é" (by rw [hclean]; decide)
  exact ⟨sample_fits, hclean, hself, hfix hclean⟩

end Linter

end Diagnosis.Lint
