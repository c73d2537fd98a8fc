import Diagnosis.Analysis.Cpp
import Diagnosis.Analysis.Python
import Diagnosis.Proofs.Compiler.Line
import Diagnosis.Proofs.Json.Limits
import Diagnosis.Proofs.Steps

/-!
# Tool output and results

A tool that has finished may have written anything. What the analyzers make of it is followed here
down to the readers of numbers: each reader either reads, or misses a limit that shows in the text
(`LocatedLine.problem_cases`, `readRecord_cases`), and a list of lines or records is read unless one
of them is not (`mapM_cases`).

* **Tools end in results** (`analyze_endsWell`): without an explanation service, both analyzers come to
  a result unless their tool has not started, for output that keeps the limits. Output of pylint that
  makes no sense is a failure and is passed on.
* The limits are real (`PythonAnalyzer.judge_openings`): brackets alone can leave an analysis without a
  result.
-/

namespace Diagnosis

open Text

namespace Compiler

variable {s digits : List Char} {l : LocatedLine}

/-! ## The lines of a compiler -/

/-- Whether digits make a number that stands in a text. -/
structure IsNumberIn (s digits : List Char) : Prop where
  ne_nil : digits ≠ []
  isInfix : digits <:+: s
  isDigit : ∀ c ∈ digits, isDigit c = true

/-- A number in a part of a text is one in the text. -/
lemma IsNumberIn.of_isInfix {t : List Char} (h : IsNumberIn t digits) (ht : t <:+: s) :
    IsNumberIn s digits := ⟨h.ne_nil, h.isInfix.trans ht, h.isDigit⟩

/-- Whether a fault says that so many digits stand in a row in a text, and too many. -/
def TooLong (s : List Char) (fault : NumeralFault) : Prop :=
  ∃ n, numeralLimit < n ∧ HasRun Text.isDigit n s ∧ fault = .tooLong n

/-- A number in a text is read, or is too long. -/
lemma IsNumberIn.readWhole_cases (h : IsNumberIn s digits) :
    (∃ n, readWhole digits = .ok n) ∨
      ∃ fault, TooLong s fault ∧ readWhole digits = .error fault := by
  obtain ⟨-, hread⟩ | ⟨hlength, hread⟩ := readWhole_digits h.ne_nil h.isDigit
  · exact .inl hread
  · exact .inr ⟨_, ⟨_, hlength, ⟨digits, h.isInfix, rfl, h.isDigit⟩, rfl⟩, hread⟩

/-- The numbers of a place stand in the line that names it. -/
lemma isNumberIn_of_read? (h : LocatedLine.read? s = some l) :
    IsNumberIn s l.line ∧ IsNumberIn s l.column := by
  obtain ⟨path, ⟨rest, rfl, -, hrest⟩, -⟩ := LocatedLine.read?_eq_some_iff.mp h
  cases hrest with
  | @intro line column gap word margin body ending severity isLine isColumn =>
    refine ⟨⟨isLine.1, ?_, isLine.2⟩, ⟨isColumn.1, ?_, isColumn.2⟩⟩
    · exact ⟨path ++ [':'], ':' :: (column ++ ':' :: (gap ++ (word ++ (margin ++ (body ++ ending))))), by simp⟩
    · exact ⟨path ++ ':' :: (line ++ [':']), ':' :: (gap ++ (word ++ (margin ++ (body ++ ending)))), by simp⟩

/-- The diagnostic of a line is read, or one of the two numbers of the line is too long. -/
lemma problem_cases (hline : IsNumberIn s l.line) (hcolumn : IsNumberIn s l.column) :
    (∃ d, l.problem = .ok d) ∨ ∃ fault, TooLong s fault ∧ l.problem = .error fault := by
  unfold LocatedLine.problem
  obtain ⟨line, hread⟩ | ⟨fault, hfault, hread⟩ := hline.readWhole_cases
  · rw [hread]
    obtain ⟨column, hread⟩ | ⟨fault, hfault, hread⟩ := hcolumn.readWhole_cases
    · rw [hread]
      exact .inl ⟨_, rfl⟩
    · rw [hread]
      exact .inr ⟨fault, hfault, rfl⟩
  · rw [hread]
    exact .inr ⟨fault, hfault, rfl⟩

/-- A line is read, or holds too long a number. -/
lemma readLine_cases (naming : Naming) (raw : List Char) :
    (∃ d, readLine naming raw = .ok d) ∨
      ∃ fault, TooLong (Secret.sanitize raw) fault ∧ readLine naming raw = .error fault := by
  unfold readLine
  dsimp only
  split
  case h_1 l hl =>
    obtain ⟨hline, hcolumn⟩ := isNumberIn_of_read? hl
    obtain ⟨d, hd⟩ | ⟨fault, hfault, herror⟩ := problem_cases hline hcolumn
    · rw [hd]
      exact .inl ⟨some d, rfl⟩
    · rw [herror]
      exact .inr ⟨fault, hfault, rfl⟩
  case h_2 => exact .inl ⟨_, rfl⟩

/-- The output of a compiler is read, or one of its lines holds too long a number. -/
theorem readOutput_cases (naming : Naming) (output : String) :
    (∃ ds, readOutput naming output = .ok ds) ∨
      ∃ raw ∈ lines output.toList, ∃ fault, TooLong (Secret.sanitize raw) fault ∧
        readOutput naming output = .error fault := by
  unfold readOutput
  obtain ⟨found, hfound, -⟩ | ⟨raw, hraw, fault, hline, hfault⟩ :=
    mapM_cases (readLine naming) (lines output.toList)
  · rw [hfound]
    exact .inl ⟨_, rfl⟩
  · rw [hfault]
    obtain ⟨d, hd⟩ | ⟨fault', htoo, herror⟩ := readLine_cases naming raw
    · exact absurd (hline.symm.trans hd) nofun
    · obtain rfl := Except.error.inj (hline.symm.trans herror)
      exact .inr ⟨raw, hraw, fault, htoo, rfl⟩

end Compiler

/-! ## The records of pylint -/

namespace Pylint

/-- Whether a value is no infinite number. -/
def IsFinite (v : Json) : Prop := ∀ x, v = .float x → x.isInf = false

/-- A place that is finite is not refused for being infinite. -/
lemma readPlace_ne_infinite {v : Json} (h : IsFinite v) : readPlace v ≠ .error .infinite := by
  unfold readPlace
  split
  · exact nofun
  · split
    case h_3 x _ =>
      split
      · exact nofun
      · rw [h x rfl]
        exact nofun
    case h_4 t _ =>
      cases readWhole t.toList <;> exact nofun
    all_goals exact nofun

/-- A record whose place is finite may still be unreadable, but not for that. -/
lemma readRecord_ne_infinite {record : Json} (hline : IsFinite (record.getD "line"))
    (hcolumn : IsFinite (record.getD "column")) : readRecord record ≠ .error .infinite := by
  unfold readRecord
  split
  case h_2 => exact nofun
  case h_1 fields =>
    dsimp only
    cases hreadLine : readPlace ((Json.object fields).getD "line") with
    | error fault =>
      exact fun h => readPlace_ne_infinite hline (Except.error.inj h ▸ hreadLine)
    | ok line =>
      cases hreadColumn : readPlace ((Json.object fields).getD "column") with
      | error fault =>
        exact fun h => readPlace_ne_infinite hcolumn (Except.error.inj h ▸ hreadColumn)
      | ok column => exact nofun

end Pylint

namespace Analysis

open Report Explain Tool Pylint

/-- Whether the output of pylint keeps the limits: not more brackets open values than may nest, and
no record has an infinite place. -/
structure IsTame (output : String) : Prop where
  openings : output.toList.countP Json.isOpening ≤ Json.defaultNesting
  finite : ∀ records, Json.read output = .ok (.array records) → ∀ record ∈ records,
    IsFinite (record.getD "line") ∧ IsFinite (record.getD "column")

/-- Whether the output of pylint makes sense: it is blank, or a list of records. -/
def IsReport (output : String) : Prop :=
  isBlankString output = true ∨ ∃ records, Json.read output = .ok (.array records) ∧
    ∀ record ∈ records, ∃ d, readRecord record = .ok d

/-- Output that keeps the limits is read or makes no sense. -/
lemma readReport_cases {output : String} (h : IsTame output) :
    (∃ ds, readReport output = .ok ds ∧ IsReport output) ∨
      readReport output = .error .unreadable := by
  unfold readReport
  split
  case isTrue hblank => exact .inl ⟨[], rfl, .inl hblank⟩
  case isFalse =>
    split
    case h_1 hdeep => exact absurd (Json.lt_countP_of_readNested hdeep) (Nat.not_lt.mpr h.openings)
    case h_2 => exact .inr rfl
    case h_3 records hrecords =>
      obtain ⟨ds, hds, hall⟩ | ⟨record, hmem, fault, hfault, herror⟩ :=
        mapM_cases (fun r => (readRecord r).mapError faultOfRecord) records
      · refine .inl ⟨ds, hds, .inr ⟨records, hrecords, fun record hmem => ?_⟩⟩
        obtain ⟨d, hd⟩ := hall record hmem
        cases hrecord : readRecord record with
        | ok d => exact ⟨d, rfl⟩
        | error fault => exact absurd (hrecord ▸ hd) nofun
      · refine .inr (herror.trans ?_)
        obtain ⟨hline, hcolumn⟩ := h.finite records hrecords record hmem
        have hfinite := readRecord_ne_infinite hline hcolumn
        cases hrecord : readRecord record with
        | ok d =>
          rw [hrecord] at hfault
          exact absurd hfault nofun
        | error fault' =>
          rw [hrecord] at hfault
          obtain rfl := Except.error.inj hfault
          cases fault' with
          | infinite => exact absurd hrecord hfinite
          | _ => rfl
    case h_4 => exact .inr rfl

/-! ## Analyzers -/

/-- Whether an analysis comes to a result, unless a tool run that it asks for has not started. -/
def EndsWell (runner : Runner) (o : Outcome) : Prop :=
  (∃ r, o.result = .ok r) ∨ ∃ call ∈ o.calls, ∃ message cause text,
    runner call = .notStarted message cause ∧ o.result = .error (.notStarted text)

/-- Without an explanation service findings are a result. -/
lemma Findings.exists_result (f : Findings) {consultant : Consultant}
    (h : consultant.service = none) (calls : List (List String)) :
    ∃ r, (f.explained consultant calls).result = .ok r := by
  have houtcome : (if f.noteworthy = true then
      consultant.consult f.code f.language f.diagnostics else {}).outcome = .ok Reply.none := by
    split
    · rw [Consultant.consult, h]
    · rfl
  unfold Findings.explained
  dsimp only
  rw [houtcome]
  exact ⟨_, rfl⟩

namespace PythonAnalyzer

variable {a : PythonAnalyzer}

/-- Judging a run makes no further calls. -/
lemma judge_calls (code output errors : String) (calls : List (List String)) :
    (a.judge code output errors calls).calls = calls := by
  unfold judge
  split
  · rfl
  · split <;> rfl

/-- What pylint has written leads to a result, and to a failure that shows it if it makes no sense. -/
lemma judge_result (ha : a.consultant.service = none) {output : String} (houtput : IsTame output)
    (code errors : String) (calls : List (List String)) :
    (∃ r, (a.judge code output errors calls).result = .ok r) ∧
      (complaint? output errors = none → ¬ IsReport output →
        (a.judge code output errors calls).result = .ok (.failed reportUnreadable (some output))) := by
  unfold judge
  cases hcomplaint : complaint? output errors with
  | some error => exact ⟨⟨_, rfl⟩, nofun⟩
  | none =>
    obtain ⟨ds, hds, hreport⟩ | hunreadable := readReport_cases houtput
    · rw [hds]
      exact ⟨Findings.exists_result _ ha calls, fun _ hnot => absurd hreport hnot⟩
    · rw [hunreadable]
      exact ⟨⟨_, rfl⟩, fun _ _ => rfl⟩

/-- An analysis of Python asks for one run at most. -/
lemma analyze_result (ha : a.consultant.service = none)
    (houtput : ∀ call output errors status, a.runner call = .finished output errors status →
      IsTame output) (code : LooseText) :
    EndsWell a.runner (a.analyze code) ∧
      ∀ call ∈ (a.analyze code).calls, ∀ output errors status,
        a.runner call = .finished output errors status → complaint? output errors = none →
          ¬ IsReport output →
            (a.analyze code).result = .ok (.failed reportUnreadable (some output)) := by
  unfold analyze
  dsimp only
  split
  case h_1 => exact ⟨.inl ⟨_, rfl⟩, List.forall_mem_nil _⟩
  case h_2 text _ =>
    split
    case h_1 message cause hrun =>
      refine ⟨.inr ⟨_, List.mem_singleton_self _, message, cause, _, hrun, rfl⟩, ?_⟩
      exact List.forall_mem_singleton.mpr fun _ _ _ h => absurd (hrun.symm.trans h) nofun
    case h_2 message hrun =>
      refine ⟨.inl ⟨_, rfl⟩, ?_⟩
      exact List.forall_mem_singleton.mpr fun _ _ _ h => absurd (hrun.symm.trans h) nofun
    case h_3 output errors status hrun =>
      obtain ⟨hresult, hfailed⟩ := judge_result ha (houtput _ _ _ _ hrun) text errors
        [a.arguments (a.scratch.path "temp_python_code" ".py")]
      rw [judge_calls]
      refine ⟨.inl hresult, List.forall_mem_singleton.mpr fun output' errors' status' h => ?_⟩
      obtain ⟨rfl, rfl, rfl⟩ := Run.finished.inj (hrun.symm.trans h)
      exact hfailed

/-- Brackets alone can leave an analysis without a result. -/
theorem judge_openings (a : PythonAnalyzer) (code : String) (s : List Char)
    (calls : List (List String)) :
    (a.judge code (String.ofList (List.replicate (Json.defaultNesting + 1) '[' ++ s)) ""
      calls).result = .error .tooDeep := by
  have hread : readReport (String.ofList (List.replicate (Json.defaultNesting + 1) '[' ++ s)) =
      .error (.fatal .tooDeep) := by
    have hblank : isBlankString
        (String.ofList (List.replicate (Json.defaultNesting + 1) '[' ++ s)) = false := by
      rw [isBlankString, String.toList_ofList]
      rfl
    rw [readReport, hblank, Json.read, String.toList_ofList, Json.readNested_openings]
    rfl
  have hcomplaint : ∀ output, complaint? output "" = none := fun _ => rfl
  rw [judge, hcomplaint, hread]
  rfl

end PythonAnalyzer

namespace CppAnalyzer

variable {a : CppAnalyzer}

/-- What a compiler has written leads to a result. -/
lemma judge_result (ha : a.consultant.service = none) {errors : String}
    (herrors : ∀ raw ∈ lines errors.toList, ∀ n, HasRun isDigit n (Secret.sanitize raw) →
      n ≤ numeralLimit) (source code : String) (status : Int) (calls : List (List String)) :
    ∃ r, (a.judge source code errors status calls).result = .ok r := by
  unfold judge
  dsimp only
  split
  · exact ⟨_, rfl⟩
  · obtain ⟨ds, hds⟩ | ⟨raw, hraw, fault, ⟨n, hn, hrun, -⟩, -⟩ :=
      Compiler.readOutput_cases { path := source } errors
    · rw [hds]
      exact Findings.exists_result _ ha calls
    · exact absurd (herrors raw hraw n hrun) (Nat.not_le.mpr hn)

/-- An analysis of C++ asks for one run at most. -/
lemma analyze_result (ha : a.consultant.service = none)
    (herrors : ∀ call output errors status, a.runner call = .finished output errors status →
      ∀ raw ∈ lines errors.toList, ∀ n, HasRun isDigit n (Secret.sanitize raw) → n ≤ numeralLimit)
    (code : LooseText) : EndsWell a.runner (a.analyze code) := by
  unfold analyze
  dsimp only
  split
  case h_1 => exact .inl ⟨_, rfl⟩
  case h_2 text _ =>
    split
    case h_1 message cause hrun =>
      exact .inr ⟨_, List.mem_singleton_self _, message, cause, _, hrun, rfl⟩
    case h_2 => exact .inl ⟨_, rfl⟩
    case h_3 output errors status hrun =>
      exact .inl (judge_result ha (herrors _ _ _ _ hrun) _ text status _)

end CppAnalyzer

/-- **Tools end in results.** Without an explanation service an analysis comes to a result unless its
tool has not started, as long as tools keep the limits in what they write; and where pylint makes no
sense, the analysis fails and shows what pylint has written. -/
theorem analyze_endsWell {a : PythonAnalyzer} {b : CppAnalyzer}
    (ha : a.consultant.service = none) (hb : b.consultant.service = none)
    (houtput : ∀ call output errors status, a.runner call = .finished output errors status →
      IsTame output)
    (herrors : ∀ call output errors status, b.runner call = .finished output errors status →
      ∀ raw ∈ lines errors.toList, ∀ n, HasRun isDigit n (Secret.sanitize raw) → n ≤ numeralLimit)
    (code : LooseText) :
    EndsWell a.runner (a.analyze code) ∧ EndsWell b.runner (b.analyze code) ∧
      ∀ call ∈ (a.analyze code).calls, ∀ output errors status,
        a.runner call = .finished output errors status →
          PythonAnalyzer.complaint? output errors = none → ¬ IsReport output →
            (a.analyze code).result =
              .ok (.failed PythonAnalyzer.reportUnreadable (some output)) := by
  obtain ⟨hpython, hreport⟩ := PythonAnalyzer.analyze_result ha houtput code
  exact ⟨hpython, CppAnalyzer.analyze_result hb herrors code, hreport⟩

/-- Pylint that writes something else than a report, and a compiler that takes too long. -/
theorem analyze_endsWell_unreadable :
    let a : PythonAnalyzer :=
      { rcfile := "pylintrc", scratch := { directory := "/tmp", stamp := 1 }, consultant := {},
        runner := fun _ => .finished "oops" "" 32 }
    let b : CppAnalyzer :=
      { settings := {}, scratch := { directory := "/tmp", stamp := 1 }, consultant := {},
        runner := fun _ => .finished "" "a.cpp:1:2: error: no" 1 }
    let code := LooseText.text "x"
    EndsWell a.runner (a.analyze code) ∧ EndsWell b.runner (b.analyze code) ∧
      (a.analyze code).result = .ok (.failed PythonAnalyzer.reportUnreadable (some "oops")) := by
  have hread : Json.read "oops" = .error (.malformed .value 1 1 0) := rfl
  have hreport : ¬ IsReport "oops" := by
    rintro (hblank | ⟨records, hrecords, -⟩)
    · exact absurd hblank (by decide)
    · exact absurd (hread.symm.trans hrecords) nofun
  have htame : IsTame "oops" :=
    ⟨by decide, fun records hrecords => absurd (hread.symm.trans hrecords) nofun⟩
  have hshort : ∀ raw ∈ lines "a.cpp:1:2: error: no".toList,
      (Secret.sanitize raw).length ≤ numeralLimit := by
    decide +kernel
  intro a b code
  obtain ⟨hpython, hcpp, hfailed⟩ := analyze_endsWell (a := a) (b := b) rfl rfl
    (fun _ _ _ _ h => (Run.finished.inj h).1 ▸ htame)
    (fun _ _ _ _ h raw hraw n hrun => hrun.le_length.trans
      (hshort raw ((Run.finished.inj h).2.1 ▸ hraw))) code
  refine ⟨hpython, hcpp, hfailed _ (List.mem_singleton_self _) "oops" "" 32 rfl rfl hreport⟩

end Analysis

end Diagnosis
