import Diagnosis.Analysis.JavaScript
import Diagnosis.Proofs.Lint.Setting

/-!
# When a bad rule set stops the service

The analyzer of JavaScript is made once, from the settings of the rules, and of what can go wrong with
them it catches one kind of fault (`Dynamic.construct`). Of settings in which every number can be written
the following holds.

* **Either the rules are read**, all options in their domains and in the order of the settings
  (`ReadsRules`), **or the analyzer keeps what is wrong** and answers with it from then on (`KeepsError`) —
  unless what is wrong cannot be said (`makesAnalyzer_iff`).
* **A value that is nested too deep to be quoted** raises a fault that nobody catches, and there is no
  analyzer (`ofSettings_of_quotesTooDeep`). An option nested deep enough does this, and so does a level
  (`quotesTooDeep_option`, `quotesTooDeep_level`).
-/

namespace Diagnosis.Analysis

open Diagnosis.Text Diagnosis.Lint Diagnosis.Explain

/-- What is kept of settings when an analyzer is made: the rules, or what is wrong with the settings. Other
faults are not caught. -/
def Dynamic.construct (settings : List (String × Json)) :
    Lint.Dynamic.Reading (Except String (List Lint.Dynamic.Active)) :=
  match Lint.Dynamic.rulesOf settings with
  | .ok rules => .ok (.ok rules)
  | .error (.config message) => .ok (.error message)
  | .error fault => .error fault

namespace JavaScriptAnalyzer

/-- The rules of settings are read: they are the entries that are on, in their order, with options in their
domains, and the analyzer lints with them. -/
structure ReadsRules (settings : List (String × Json)) (rules : List Lint.Dynamic.Active) : Prop where
  read : Lint.Dynamic.rulesOf settings = .ok rules
  construct : Dynamic.construct settings = .ok (.ok rules)
  inOrder : (rules.map fun r => (r.name, r.severity)) =
    settings.filterMap fun p => (Lint.Dynamic.severityOf? p.2).map (p.1, ·)
  inDomain : ∀ r ∈ rules, r.InDomain
  lints : ∀ parse consultant, ∃ analyzer linter, ofSettings settings parse consultant = .ok analyzer ∧
    analyzer.linter = .ok linter ∧ linter.rules.map Lint.Dynamic.activeOf = rules ∧ linter.parse = parse

/-- Settings make no sense: the analyzer keeps what is wrong, and answers every text with it. -/
structure KeepsError (settings : List (String × Json)) (message : String) : Prop where
  read : Lint.Dynamic.rulesOf settings = .error (.config message)
  construct : Dynamic.construct settings = .ok (.error message)
  answers : ∀ parse consultant, ∃ analyzer, ofSettings settings parse consultant = .ok analyzer ∧
    ∀ code, analyzer.analyze code = .failed linterFailed (some message)

/-- Whether the first setting that makes no sense makes none for a value nested too deep to be quoted. -/
def QuotesTooDeep (settings : List (String × Json)) : Prop :=
  ∃ e v, readRules settings = .error e ∧ e.quoted? = some v ∧ Json.defaultNesting < v.nesting

variable {settings : List (String × Json)}

/-- Rules that are read make an analyzer. -/
lemma readsRules_of_ok {found : List Rule} (h : readRules settings = .ok found) :
    ReadsRules settings (found.map Lint.Dynamic.activeOf) := by
  have hrules : Lint.rulesOf settings = .ok found := by
    rw [Lint.rulesOf, h]
    rfl
  have hread : Lint.Dynamic.rulesOf settings = .ok (found.map Lint.Dynamic.activeOf) := by
    rw [Lint.Dynamic.rulesOf_eq, hrules]
    rfl
  refine ⟨hread, ?_, ?_, ?_, ?_⟩
  · rw [Dynamic.construct, hread]
  · rw [List.map_map]
    exact Lint.Dynamic.map_readRules h
  · intro r hr
    obtain ⟨rule, -, rfl⟩ := List.mem_map.mp hr
    exact Lint.Dynamic.inDomain_activeOf rule
  · intro parse consultant
    refine ⟨⟨.ok ⟨found, parse⟩, consultant⟩, ⟨found, parse⟩, ?_, rfl, rfl, rfl⟩
    rw [ofSettings, hrules]

/-- An error that can be said is kept. -/
lemma keepsError_of_raised {e e' : ConfigError} (h : readRules settings = .error e)
    (hraised : e.raised = .config e') : KeepsError settings e'.message := by
  have hrules : Lint.rulesOf settings = .error (.config e') := by
    rw [Lint.rulesOf, h, ← hraised]
    rfl
  have hread : Lint.Dynamic.rulesOf settings = .error (.config e'.message) := by
    rw [Lint.Dynamic.rulesOf_eq, hrules]
    rfl
  refine ⟨hread, ?_, ?_⟩
  · rw [Dynamic.construct, hread]
  · intro parse consultant
    refine ⟨⟨.error e', consultant⟩, ?_, fun code => rfl⟩
    rw [ofSettings, hrules]

/-- An error that quotes a value nested too deep is raised as a fault of its own. -/
lemma raised_of_tooDeep {e : ConfigError} {v : Json} (hv : e.quoted? = some v)
    (hwritable : v.isWritable = true) (hdeep : Json.defaultNesting < v.nesting) :
    e.raised = .quoting .tooDeep := by
  have hfault : e.quoted?.bind Json.quoteFault? = some .tooDeep := by
    rw [hv, Option.bind_some, Json.quoteFault?_of_isWritable hwritable, Json.depthFault?, if_pos hdeep]
  unfold ConfigError.raised
  rw [hfault]

/-- Any other error is raised as it is. -/
lemma raised_of_quotable {e : ConfigError}
    (h : ∀ v, e.quoted? = some v → v.isWritable = true ∧ v.nesting ≤ Json.defaultNesting) :
    e.raised = .config e := by
  have hfault : e.quoted?.bind Json.quoteFault? = none := by
    refine Option.bind_eq_none_iff.mpr fun v hv => ?_
    obtain ⟨hwritable, hnesting⟩ := h v hv
    rw [Json.quoteFault?_of_isWritable hwritable, Json.depthFault?, if_neg (Nat.not_lt.mpr hnesting)]
  unfold ConfigError.raised
  rw [hfault]

/-- **What cannot be said stops the service**: the fault is not that of a setting that makes no sense, it is
not caught, and there is no analyzer. -/
theorem ofSettings_of_quotesTooDeep (hwritable : ∀ p ∈ settings, p.2.isWritable = true)
    (h : QuotesTooDeep settings) :
    Lint.Dynamic.rulesOf settings = .error .tooDeep ∧ Dynamic.construct settings = .error .tooDeep ∧
      ∀ parse consultant, ofSettings settings parse consultant = .error .tooDeep := by
  obtain ⟨e, v, he, hv, hdeep⟩ := h
  have hrules : Lint.rulesOf settings = .error (.quoting .tooDeep) := by
    rw [Lint.rulesOf, he]
    exact congrArg Except.error (raised_of_tooDeep hv (isWritable_of_quoted? hwritable he hv) hdeep)
  have hread : Lint.Dynamic.rulesOf settings = .error .tooDeep := by
    rw [Lint.Dynamic.rulesOf_eq, hrules]
    rfl
  refine ⟨hread, ?_, ?_⟩
  · rw [Dynamic.construct, hread]
  · intro parse consultant
    rw [ofSettings, hrules]

/-- **When settings make an analyzer.** The rules are read, or the analyzer keeps what is wrong with the
settings, if and only if no value nested too deep has to be quoted. -/
theorem makesAnalyzer_iff (hwritable : ∀ p ∈ settings, p.2.isWritable = true) :
    ((∃ rules, ReadsRules settings rules) ∨ ∃ message, KeepsError settings message) ↔
      ¬ QuotesTooDeep settings := by
  constructor
  · intro hmakes hdeep
    obtain ⟨hfault, -, -⟩ := ofSettings_of_quotesTooDeep hwritable hdeep
    obtain ⟨rules, hreads⟩ | ⟨message, hkeeps⟩ := hmakes
    · exact absurd (hfault.symm.trans hreads.read) nofun
    · exact absurd (hfault.symm.trans hkeeps.read) nofun
  · intro hdeep
    cases hread : readRules settings with
    | ok found => exact .inl ⟨_, readsRules_of_ok hread⟩
    | error e =>
      have hraised : e.raised = .config e := by
        refine raised_of_quotable fun v hv => ⟨isWritable_of_quoted? hwritable hread hv, ?_⟩
        exact Nat.not_lt.mp fun hlt => hdeep ⟨e, v, hread, hv, hlt⟩
      exact .inr ⟨_, keepsError_of_raised hread hraised⟩

/-- A rule that is off, with options that are none, one whose levels of a case are a truth value, and one
whose width is a list. -/
def faultySettings : List (String × Json) :=
  [("semi", .array [.string "off", .object []]),
    ("quotes", .array [.int 1, .string "single", .object [("avoidEscape", .null)]]),
    ("indent", .array [.int 2, .array [.int 1], .object [("SwitchCase", .bool true)]])]

/-- What is wrong with the settings. -/
def faultySettingsMessage : String :=
  "Configuration for rule 'indent' is invalid: " ++
    "Indent size must be a non-negative integer or 'tab', got [1]"

/-- The analyzer is made all the same, and keeps what is wrong. -/
theorem makesAnalyzer_iff_faulty :
    (∀ p ∈ faultySettings, p.2.isWritable = true) ∧ ¬ QuotesTooDeep faultySettings ∧
      KeepsError faultySettings faultySettingsMessage := by
  have hwritable : ∀ p ∈ faultySettings, p.2.isWritable = true := by decide +kernel
  have hread : readRules faultySettings =
      .error (.badOptions "indent" (.badIndentSize (.array [.int 1]))) := rfl
  have hshallow : ¬ QuotesTooDeep faultySettings := by
    rintro ⟨e, v, he, hv, hdeep⟩
    obtain rfl := Except.error.inj (hread.symm.trans he)
    obtain rfl := Option.some.inj hv
    exact absurd hdeep (by decide)
  have hmessage : Lint.Dynamic.rulesOf faultySettings = .error (.config faultySettingsMessage) := by
    decide +kernel
  refine ⟨hwritable, hshallow, ?_⟩
  obtain ⟨rules, hreads⟩ | ⟨message, hkeeps⟩ := (makesAnalyzer_iff hwritable).mpr hshallow
  · exact absurd (hmessage.symm.trans hreads.read) nofun
  · have heq : faultySettingsMessage = message :=
      Lint.Dynamic.Fault.config.inj (Except.error.inj (hmessage.symm.trans hkeeps.read))
    rw [heq]
    exact hkeeps

/-- What is wrong with a lone setting is what is wrong with the settings. -/
lemma readRules_singleton {name : String} {setting : Json} {e : ConfigError}
    (h : Rule.ofSetting name setting = .error e) : readRules [(name, setting)] = .error e := by
  simp only [readRules, List.mapM_cons, h]
  rfl

/-- **An option nested deep enough** stops the service: one of `semi`, in so many arrays. -/
theorem quotesTooDeep_option {n : Nat} (h : Json.defaultNesting ≤ n) :
    QuotesTooDeep [("semi", .array [.string "error", Json.nestedArray n])] := by
  have hword : (Json.nestedArray n).asString? = none := by cases n <;> rfl
  refine ⟨.badOptions "semi" (.notAllowed (Json.nestedArray n) ["always", "never"]), _, ?_, rfl, ?_⟩
  · have hlookup : rules.lookup "semi" =
        some fun options => Check.semi <$> choose options presences .always := rfl
    have hlevel : levelOf? (.string "error") = some (some .error) := rfl
    have hchoose : choose [Json.nestedArray n] presences .always =
        .error (.notAllowed (Json.nestedArray n) ["always", "never"]) := by
      rw [choose, hword]
      rfl
    refine readRules_singleton ?_
    simp only [Rule.ofSetting, hlookup, splitSetting, bind, Except.bind, hlevel, hchoose]
    rfl
  · rw [Json.nesting_nestedArray]
    exact Nat.lt_succ_of_le h

/-- **A level nested deep enough** stops the service, whichever rule it is the level of. -/
theorem quotesTooDeep_level {name : String} {n : Nat} (hname : (rules.lookup name).isSome = true)
    (h : Json.defaultNesting ≤ n) : QuotesTooDeep [(name, Json.nestedArray (n + 1))] := by
  obtain ⟨readOptions, hlookup⟩ := Option.isSome_iff_exists.mp hname
  refine ⟨.badLevel name (Json.nestedArray n), _, ?_, rfl, ?_⟩
  · have hlevel : levelOf? (Json.nestedArray n) = none := by cases n <;> rfl
    refine readRules_singleton ?_
    simp only [Rule.ofSetting, hlookup, Json.nestedArray, splitSetting, bind, Except.bind, hlevel]
    rfl
  · rw [Json.nesting_nestedArray]
    exact Nat.lt_succ_of_le h

end JavaScriptAnalyzer

end Diagnosis.Analysis
