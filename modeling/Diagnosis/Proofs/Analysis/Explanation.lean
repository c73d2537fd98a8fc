import Diagnosis.Analysis.Cpp
import Diagnosis.Analysis.JavaScript
import Diagnosis.Analysis.Python
import Diagnosis.Proofs.Explain.Consult
import Diagnosis.Proofs.Secret.Redaction

/-!
# Explanations beside analyses

An analysis is carried out before anyone is asked to explain it, and what is said then is put
beside it. So every analysis goes one of two courses (`Strategy.course`): it ends early, without a
word to the explanation service, or it has findings, and all that the service can do is fill the
reply in.

* **Explanations do not alter an analysis** (`analyze_agrees`): two results that differ only in who
  was asked agree on every key but those of the reply.
* **The service is asked when there is something to explain** (`prompts_analyze`), and then once.
  There is if the analysis was carried out and found something, or if it was a compilation that
  failed. The default placeholder keeps redaction from failing (`isReliable_of_plain`).
-/

namespace Diagnosis.Analysis

open Text Report Explain Tool Secret

/-! ## Strategies -/

/-- An analysis, but for who is asked for explanations. -/
inductive Strategy where
  /-- With the linter, or without one for a reason. -/
  | lint (linter : Except Lint.ConfigError Lint.Linter)
  /-- With pylint. -/
  | pylint (rcfile : String) (scratch : Scratch) (runner : Runner)
  /-- With the compiler. -/
  | compile (settings : CompilerSettings) (scratch : Scratch) (runner : Runner)

namespace Strategy

/-- Analyses a text. -/
def analyze : Strategy → Consultant → LooseText → Outcome
  | lint linter, c => JavaScriptAnalyzer.analyze ⟨linter, c⟩
  | pylint rcfile scratch runner, c => PythonAnalyzer.analyze ⟨rcfile, scratch, runner, c⟩
  | compile settings scratch runner, c => CppAnalyzer.analyze ⟨settings, scratch, runner, c⟩

/-- Whether one of several runs is a compilation that has failed. -/
def HasFailedRun : Strategy → List (List String) → Prop
  | compile _ _ runner, calls => ∃ call ∈ calls, ∃ output errors status,
      runner call = .finished output errors status ∧ status ≠ 0
  | _, _ => False

end Strategy

/-- How an analysis goes, whoever is asked for explanations. -/
inductive Course (analyze : Consultant → Outcome) (failed : List (List String) → Prop) : Prop
  /-- It ends before there is something to explain, without completing. -/
  | ended (o : Outcome) : (∀ c, analyze c = o) → o.prompts = [] →
      (∀ r, o.result = .ok r → r.isSuccess = false) → Course analyze failed
  /-- It has findings, which are explained if there is a diagnostic or a compilation has failed. -/
  | found (f : Findings) (calls : List (List String)) : (∀ c, analyze c = f.explained c calls) →
      (f.noteworthy = true ↔ f.diagnostics ≠ [] ∨ failed calls) → Course analyze failed

namespace Course

variable {analyze : Consultant → Outcome} {failed : List (List String) → Prop}

/-- A failed analysis. -/
lemma of_failed {error : String} {details : Option String} {calls : List (List String)}
    (h : ∀ c, analyze c = .failed error details calls) : Course analyze failed := by
  refine .ended _ h rfl fun r hr => ?_
  obtain rfl := Except.ok.inj hr
  rfl

/-- An analysis without a result. -/
lemma of_stopped {error : AnalysisError} {calls : List (List String)}
    (h : ∀ c, analyze c = .stopped error calls) : Course analyze failed :=
  .ended _ h rfl fun _ hr => absurd hr nofun

end Course

namespace Strategy

/-- Linters report nothing but diagnostics. -/
lemma noteworthy_iff {ds : List Diagnostic} : (!ds.isEmpty) = true ↔ ds ≠ [] ∨ False := by
  simp

/-- Linting goes like this: without a linter or a text it fails, and otherwise it has findings. -/
lemma course_lint (linter : Except Lint.ConfigError Lint.Linter) (code : LooseText) :
    Course (fun c => (lint linter).analyze c code) (lint linter).HasFailedRun := by
  simp only [analyze, JavaScriptAnalyzer.analyze]
  cases linter with
  | error fault => exact .of_failed fun _ => rfl
  | ok linter =>
    cases code.strict with
    | error fault => exact .of_failed fun _ => rfl
    | ok source => exact .found _ [] (fun _ => rfl) noteworthy_iff

/-- An analysis with pylint fails before its run, or has findings when the run is over. -/
lemma course_pylint (rcfile : String) (scratch : Scratch) (runner : Runner) (code : LooseText) :
    Course (fun c => (pylint rcfile scratch runner).analyze c code)
      (pylint rcfile scratch runner).HasFailedRun := by
  simp only [analyze, PythonAnalyzer.analyze]
  cases scratch.write (scratch.path "temp_python_code" ".py") code with
  | error fault => exact .of_failed fun _ => rfl
  | ok source =>
    simp only [PythonAnalyzer.arguments]
    split
    case h_1 => exact .of_stopped fun _ => rfl
    case h_2 => exact .of_failed fun _ => rfl
    case h_3 output errors status hrun =>
      simp only [PythonAnalyzer.judge]
      cases PythonAnalyzer.complaint? output errors with
      | some error => exact .of_failed fun _ => rfl
      | none =>
        cases readReport output with
        | error fault =>
          cases fault with
          | unreadable => exact .of_failed fun _ => rfl
          | fatal error => exact .of_stopped fun _ => rfl
        | ok ds => exact .found _ _ (fun _ => rfl) noteworthy_iff

/-- A compilation has failed exactly when its status is not zero. -/
lemma hasFailedRun_iff {settings : CompilerSettings} {scratch : Scratch} {runner : Runner}
    {call : List String} {output errors : String} {status : Int}
    (hrun : runner call = .finished output errors status) :
    (compile settings scratch runner).HasFailedRun [call] ↔ status ≠ 0 := by
  constructor
  · rintro ⟨call', hmem, output', errors', status', hrun', hstatus⟩
    rw [List.mem_singleton.mp hmem, hrun] at hrun'
    obtain ⟨-, -, rfl⟩ := Run.finished.inj hrun'
    exact hstatus
  · intro hstatus
    exact ⟨call, List.mem_singleton_self call, output, errors, status, hrun, hstatus⟩

/-- An analysis with a compiler fails before its run, or has findings when the run is over. -/
lemma course_compile (settings : CompilerSettings) (scratch : Scratch) (runner : Runner)
    (code : LooseText) :
    Course (fun c => (compile settings scratch runner).analyze c code)
      (compile settings scratch runner).HasFailedRun := by
  simp only [analyze, CppAnalyzer.analyze]
  cases scratch.write (scratch.path "temp_cpp_code" ".cpp") code with
  | error fault => exact .of_failed fun _ => rfl
  | ok source =>
    simp only [CppAnalyzer.arguments]
    split
    case h_1 => exact .of_stopped fun _ => rfl
    case h_2 => exact .of_failed fun _ => rfl
    case h_3 output errors status hrun =>
      simp only [CppAnalyzer.judge]
      split
      case isTrue => exact .of_failed fun _ => rfl
      case isFalse =>
        split
        case h_1 => exact .of_stopped fun _ => rfl
        case h_2 ds hds =>
          refine .found _ _ (fun _ => rfl) ?_
          rw [hasFailedRun_iff hrun]
          simp [or_comm]

/-- **Every analysis goes its course, whoever is asked for explanations.** -/
theorem course (s : Strategy) (code : LooseText) :
    Course (fun c => s.analyze c code) s.HasFailedRun := by
  cases s with
  | lint linter => exact course_lint linter code
  | pylint rcfile scratch runner => exact course_pylint rcfile scratch runner code
  | compile settings scratch runner => exact course_compile settings scratch runner code

end Strategy

/-! ## Consulting -/

/-- Who asks gets no reply where no question is answered. -/
lemma outcome_consult_of_unanswered {c : Consultant} {code language : String} {ds : List Diagnostic}
    (h : ∀ p ∈ (c.consult code language ds).prompts, c.answerTo p = none) :
    (c.consult code language ds).outcome = .ok Reply.none := by
  rcases c with ⟨service, redactor⟩
  cases service with
  | none => rfl
  | some service =>
    simp only [Consultant.consult] at h ⊢
    cases hprompt : prompt redactor code language ds with
    | error fault => rfl
    | ok p =>
      have hanswer : service p = none := h p (by simp [hprompt])
      simp [Consultant.replyTo, hanswer]

/-- Explaining findings leaves them as they are: it gives a result with them, or the reply cannot be
read. -/
lemma explained_cases (f : Findings) (c : Consultant) (calls : List (List String)) :
    (∃ reply, (f.explained c calls).result =
        .ok (.completed f.diagnostics f.fixedCode reply f.details) ∧
      ((∀ p ∈ (f.explained c calls).prompts, c.answerTo p = none) → reply = Reply.none)) ∨
      ∃ fault, (f.explained c calls).result = .error (.badReply fault) := by
  simp only [Findings.explained]
  by_cases hnote : f.noteworthy = true
  · simp only [hnote, if_true]
    cases houtcome : (c.consult f.code f.language f.diagnostics).outcome with
    | error fault => exact .inr ⟨fault, rfl⟩
    | ok reply =>
      refine .inl ⟨reply, rfl, fun hunanswered => ?_⟩
      have hnone := outcome_consult_of_unanswered hunanswered
      rw [houtcome] at hnone
      exact Except.ok.inj hnone
  · simp only [hnote]
    exact .inl ⟨Reply.none, rfl, fun _ => rfl⟩

/-! ## What the explanation service has no say in -/

/-- The keys under which a result tells what the explanation service has said. -/
def replyKeys : List String := ["aiExplanation", "aiSuggestion", "aiFixedCode"]

/-- Under the other keys no reply is told. -/
lemma get?_completed {key : String} (hkey : key ∉ replyKeys) (ds : List Diagnostic)
    (fixedCode : String) (reply reply' : Reply) (details : Option String) :
    (Result.completed ds fixedCode reply details).toJson.get? key =
      (Result.completed ds fixedCode reply' details).toJson.get? key := by
  have hne : "aiExplanation" ≠ key ∧ "aiSuggestion" ≠ key ∧ "aiFixedCode" ≠ key := by
    simpa [replyKeys, eq_comm] using hkey
  simp [Result.toJson, Json.get?, Json.find?, hne]

/-- There are three keys for what an answer says. -/
lemma eq_of_mem_replyKeys {key : String} (h : key ∈ replyKeys) :
    key = "aiExplanation" ∨ key = "aiSuggestion" ∨ key = "aiFixedCode" := by
  simpa [replyKeys] using h

/-- A failure says nothing of an answer. -/
lemma get?_failed {key : String} (hkey : key ∈ replyKeys) (error : String)
    (details : Option String) :
    (Result.failed error details).toJson.get? key = none := by
  rcases eq_of_mem_replyKeys hkey with rfl | rfl | rfl <;> cases details <;> rfl

/-- A result without an answer says so under each of the keys. -/
lemma get?_unexplained {key : String} (hkey : key ∈ replyKeys) (ds : List Diagnostic)
    (fixedCode : String) (details : Option String) :
    (Result.completed ds fixedCode Reply.none details).toJson.get? key = some .null := by
  rcases eq_of_mem_replyKeys hkey with rfl | rfl | rfl <;> rfl

/-- **Explanations do not alter an analysis.** Whoever is asked, the results agree on every key but
those of the reply. Where no question was answered, a completed analysis has null there; a failed
one never has these keys. -/
theorem analyze_agrees (s : Strategy) (code : LooseText) {c₁ c₂ : Consultant} {r₁ r₂ : Result}
    (h₁ : (s.analyze c₁ code).result = .ok r₁) (h₂ : (s.analyze c₂ code).result = .ok r₂) :
    (∀ key ∉ replyKeys, r₁.toJson.get? key = r₂.toJson.get? key) ∧
      ((∀ p ∈ (s.analyze c₁ code).prompts, c₁.answerTo p = none) →
        ∀ key ∈ replyKeys, r₁.toJson.get? key = if r₁.isSuccess then some .null else none) := by
  cases s.course code with
  | ended o ho _ hresult =>
    rw [ho] at h₁ h₂
    obtain rfl := Except.ok.inj (h₁.symm.trans h₂)
    have hfailed := hresult r₁ h₁
    refine ⟨fun _ _ => rfl, fun _ key hkey => ?_⟩
    cases r₁ with
    | failed error details => exact get?_failed hkey error details
    | completed ds fixedCode reply details => cases hfailed
  | found f calls hf _ =>
    rw [hf] at h₁ h₂ ⊢
    rcases explained_cases f c₁ calls with ⟨reply₁, hok₁, hnone⟩ | ⟨fault, hbad⟩
    · rcases explained_cases f c₂ calls with ⟨reply₂, hok₂, -⟩ | ⟨fault, hbad⟩
      · obtain rfl := Except.ok.inj (h₁.symm.trans hok₁)
        obtain rfl := Except.ok.inj (h₂.symm.trans hok₂)
        refine ⟨fun key hkey => get?_completed hkey _ _ _ _ _, fun hunanswered key hkey => ?_⟩
        obtain rfl := hnone hunanswered
        exact get?_unexplained hkey _ _ _
      · exact absurd (h₂.symm.trans hbad) nofun
    · exact absurd (h₁.symm.trans hbad) nofun

/-- Different replies, and none. -/
theorem analyze_agrees_reply :
    let s := Strategy.compile {} { directory := "/tmp", stamp := 1 } fun _ => .finished "" "" 1
    let answered := (s.analyze { service := some fun _ => some "no" } (.text "x")).result
    let unanswered := (s.analyze { service := some fun _ => none } (.text "x")).result
    ∃ r₁ r₂, answered = .ok r₁ ∧ unanswered = .ok r₂ ∧
      r₁.toJson.get? "aiExplanation" = some (.string "no") ∧
      r₂.toJson.get? "aiExplanation" = some .null ∧
      ∀ key ∉ replyKeys, r₂.toJson.get? key = r₁.toJson.get? key := by
  intro s answered unanswered
  have h₁ : answered = .ok (.completed [] "x" (Reply.plain "no") (some "g++ exited with code 1")) :=
    rfl
  have h₂ : unanswered = .ok (.completed [] "x" Reply.none (some "g++ exited with code 1")) := rfl
  obtain ⟨hsame, hnone⟩ := analyze_agrees s (.text "x") h₂ h₁
  refine ⟨_, _, h₁, h₂, rfl, ?_, hsame⟩
  exact hnone (fun _ _ => rfl) "aiExplanation" (by decide)

/-! ## When the explanation service is asked -/

/-- Whether redaction never fails. -/
def IsReliable (r : Redactor) : Prop := ∀ s, ∃ out, r.redact s = .ok out

/-- Redaction with a placeholder without backslashes does not fail. -/
lemma isReliable_of_plain {r : Redactor} (h : r.placeholder.toList.contains '\\' = false) :
    IsReliable r := by
  have hform : ∀ s f, ∃ out, r.redactForm s f = .ok out := by
    intro s f
    have htemplate : r.template f = .ok (r.placeholder.toList.map .char) := by
      simp only [Redactor.template, h]
      rfl
    exact ⟨_, by rw [Redactor.redactForm, htemplate]; rfl⟩
  have hforms : ∀ (fs : List Form) s, ∃ out, fs.foldlM r.redactForm s = .ok out := by
    intro fs
    induction fs with
    | nil => exact fun s => ⟨s, rfl⟩
    | cons f fs ih =>
      intro s
      rcases hform s f with ⟨mid, hmid⟩
      rcases ih mid with ⟨out, hout⟩
      exact ⟨out, by rw [List.foldlM_cons, hmid]; exact hout⟩
  intro s
  rcases hforms r.forms s.toList with ⟨out, hout⟩
  by_cases hempty : s.isEmpty = true
  · exact ⟨s, by rw [Redactor.redact, if_pos hempty]⟩
  · exact ⟨String.ofList out, by rw [Redactor.redact, if_neg hempty, hout]; rfl⟩

/-- Nobody asks twice. -/
lemma length_prompts_consult_le (c : Consultant) (code language : String) (ds : List Diagnostic) :
    (c.consult code language ds).prompts.length ≤ 1 := by
  rcases c with ⟨service, redactor⟩
  cases service with
  | none => exact Nat.zero_le 1
  | some service =>
    simp only [Consultant.consult]
    cases prompt redactor code language ds with
    | error fault => exact Nat.zero_le 1
    | ok p => exact Nat.le_refl 1

/-- Who can ask, asks once. -/
lemma exists_prompts_consult {c : Consultant} (hservice : c.isEnabled = true)
    (hredactor : ∀ r, c.redactor = some r → IsReliable r) (code language : String)
    (ds : List Diagnostic) : ∃ p, (c.consult code language ds).prompts = [p] := by
  rcases c with ⟨service, redactor⟩
  cases service with
  | none => cases hservice
  | some service =>
    have hprompt : ∃ p, prompt redactor code language ds = .ok p := by
      cases redactor with
      | none => exact ⟨_, rfl⟩
      | some r =>
        rcases hredactor r rfl code with ⟨cleanCode, hcode⟩
        rcases hredactor r rfl (issueLines ds) with ⟨cleanIssues, hissues⟩
        exact ⟨promptOf cleanCode language cleanIssues, by rw [prompt, hcode, hissues]; rfl⟩
    rcases hprompt with ⟨p, hp⟩
    exact ⟨p, by simp [Consultant.consult, hp]⟩

/-- Whether there is something to explain: an analysis that nobody explains is completed, and it has
a diagnostic or its compilation has failed. -/
def Strategy.HasMatter (s : Strategy) (code : LooseText) : Prop :=
  ∃ r, (s.analyze {} code).result = .ok r ∧ r.isSuccess = true ∧
    (r.diagnostics ≠ [] ∨ s.HasFailedRun (s.analyze {} code).calls)

/-- Analyses that end early have nothing to explain. -/
lemma not_hasMatter {s : Strategy} {code : LooseText} {o : Outcome}
    (ho : s.analyze {} code = o) (hresult : ∀ r, o.result = .ok r → r.isSuccess = false) :
    ¬ s.HasMatter code := by
  rintro ⟨r, hr, hsuccess, -⟩
  rw [ho] at hr
  simp [hresult r hr] at hsuccess

/-- Findings are a matter to explain if there are diagnostics or a run has failed. -/
lemma hasMatter_iff_of_found {s : Strategy} {code : LooseText} {f : Findings}
    {calls : List (List String)} (hf : s.analyze {} code = f.explained {} calls) :
    s.HasMatter code ↔ f.diagnostics ≠ [] ∨ s.HasFailedRun calls := by
  have hresult : (f.explained {} calls).result =
      .ok (.completed f.diagnostics f.fixedCode Reply.none f.details) := by
    simp only [Findings.explained]
    cases f.noteworthy <;> rfl
  unfold Strategy.HasMatter
  rw [hf, hresult]
  constructor
  · rintro ⟨r, hr, -, hmatter⟩
    obtain rfl := Except.ok.inj hr
    exact hmatter
  · exact fun hmatter => ⟨_, rfl, rfl, hmatter⟩

/-- An explained analysis has asked what its consultant has, if there was something to explain. -/
lemma prompts_explained (f : Findings) (c : Consultant) (calls : List (List String)) :
    (f.explained c calls).prompts =
      if f.noteworthy then (c.consult f.code f.language f.diagnostics).prompts else [] := by
  simp only [Findings.explained]
  cases f.noteworthy <;> rfl

/-- What an explained analysis comes to was carried out and has the diagnostics that were found. -/
lemma of_result_explained {f : Findings} {c : Consultant} {calls : List (List String)} {r : Result}
    (hr : (f.explained c calls).result = .ok r) :
    r.isSuccess = true ∧ r.diagnostics = f.diagnostics := by
  rcases explained_cases f c calls with ⟨reply, hok, -⟩ | ⟨fault, hbad⟩
  · obtain rfl := Except.ok.inj (hr.symm.trans hok)
    exact ⟨rfl, rfl⟩
  · exact absurd (hr.symm.trans hbad) nofun

/-- **The explanation service is asked at most once, and only if there is something to explain.** If
there is, a consultant that has a service asks it, unless redaction fails. For an analysis that
comes to a result, whether there is something to explain can be told from that result; one that
comes to an error in spite of it has got a reply that cannot be read. -/
theorem prompts_analyze (s : Strategy) (code : LooseText) (c : Consultant) :
    (s.analyze c code).prompts.length ≤ 1 ∧
      (¬ s.HasMatter code → (s.analyze c code).prompts = []) ∧
      (s.HasMatter code → c.isEnabled = true → (∀ r, c.redactor = some r → IsReliable r) →
        ∃ p, (s.analyze c code).prompts = [p]) ∧
      (∀ r, (s.analyze c code).result = .ok r → (s.HasMatter code ↔ r.isSuccess = true ∧
        (r.diagnostics ≠ [] ∨ s.HasFailedRun (s.analyze c code).calls))) ∧
      ∀ e, (s.analyze c code).result = .error e → s.HasMatter code →
        ∃ fault, e = .badReply fault := by
  cases s.course code with
  | ended o ho hprompts hresult =>
    have hno := not_hasMatter (ho {}) hresult
    rw [ho c, hprompts]
    refine ⟨Nat.zero_le 1, fun _ => rfl, fun hmatter => absurd hmatter hno, fun r hr => ?_,
      fun _ _ hmatter => absurd hmatter hno⟩
    simp [hno, hresult r hr]
  | found f calls hf hnote =>
    rw [hasMatter_iff_of_found (hf {}), hf c, ← hnote]
    rw [prompts_explained]
    refine ⟨?_, fun hno => if_neg hno, fun hmatter hservice hredactor => ?_, fun r hr => ?_,
      fun e he _ => ?_⟩
    · split
      case isTrue => exact length_prompts_consult_le c f.code f.language f.diagnostics
      case isFalse => exact Nat.zero_le 1
    · rw [if_pos hmatter]
      exact exists_prompts_consult hservice hredactor f.code f.language f.diagnostics
    · obtain ⟨hsuccess, hdiagnostics⟩ := of_result_explained hr
      rw [hnote, hdiagnostics]
      exact ⟨fun hmatter => ⟨hsuccess, hmatter⟩, fun h => h.2⟩
    · rcases explained_cases f c calls with ⟨reply, hok, -⟩ | ⟨fault, hbad⟩
      · exact absurd (he.symm.trans hok) nofun
      · exact ⟨fault, Except.error.inj (he.symm.trans hbad)⟩

/-- A compilation that has failed without a diagnostic, and one that has not. -/
theorem prompts_analyze_status :
    let s (status : Int) := Strategy.compile {} { directory := "/tmp", stamp := 1 } fun _ =>
      .finished "" "" status
    let c : Consultant := { service := some fun _ => none, redactor := some {} }
    c.isEnabled = true ∧ (∀ r, c.redactor = some r → IsReliable r) ∧
      (∃ p, ((s 1).analyze c (.text "x")).prompts = [p]) ∧
      ((s 0).analyze c (.text "x")).prompts = [] := by
  intro s c
  have hredactor : ∀ r, c.redactor = some r → IsReliable r := by
    intro r hr
    obtain rfl := Option.some.inj hr
    exact isReliable_of_plain (by decide)
  have hmatter : (s 1).HasMatter (.text "x") :=
    ⟨_, rfl, rfl, .inr ⟨_, List.mem_singleton_self _, "", "", 1, rfl, by decide⟩⟩
  have hclean : ¬ (s 0).HasMatter (.text "x") := by
    rintro ⟨r, hr, -, hdiagnostics | hfailed⟩
    · obtain rfl := Except.ok.inj hr
      exact hdiagnostics rfl
    · exact (Strategy.hasFailedRun_iff rfl).mp hfailed rfl
  obtain ⟨-, -, hasked, -, -⟩ := prompts_analyze (s 1) (.text "x") c
  obtain ⟨-, hsilent, -, -, -⟩ := prompts_analyze (s 0) (.text "x") c
  exact ⟨rfl, hredactor, hasked hmatter rfl hredactor, hsilent hclean⟩

end Diagnosis.Analysis
