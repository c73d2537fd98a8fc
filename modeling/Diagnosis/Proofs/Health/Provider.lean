import Diagnosis.Config.Load
import Diagnosis.Health.Checks
import Diagnosis.Proofs.Steps

/-!
# What the health report says of the explanation service

Two places judge the settings of the explanation service: where the service is chosen, any key will
do, but the health report does not take a key that looks like a reference to a variable.

* Loading a configuration gives the provider that is asked a section (`hasSection_of_load`), so the
  report never finds that there is none.
* **The report and the choice agree on all other keys** (`checkProvider_healthy_iff`): the service is
  healthy if and only if it is chosen and its key is no reference.
* **They disagree on every reference** (`disagrees_of_reference`): a service with such a key is used,
  while the report says that there are no explanations.
-/

namespace Diagnosis

open Config

/-! ## Checked values -/

namespace Config

namespace Checked

variable {α β : Type}

/-- A checked value may be changed: it passes if it did before. -/
lemma map_eq_ok {f : α → β} {x : Checked α} {b : β} : x.map f = .ok b ↔ ∃ a, x = .ok a ∧ f a = b := by
  cases x <;> simp [map]

/-- Two checked values pass together if each of them does. -/
lemma seq_eq_ok {f : Checked (α → β)} {x : Checked α} {b : β} :
    f <*> x = .ok b ↔ ∃ g a, f = .ok g ∧ x = .ok a ∧ g a = b := by
  cases f <;> cases x <;> simp [Seq.seq, apply]

/-- As a step that may fail, a checked value passes as before. -/
lemma toExcept_eq_ok {x : Checked α} {a : α} : x.toExcept = .ok a ↔ x = .ok a := by
  cases x <;> simp [toExcept]

/-- Naming the setting that a value stands under changes nothing if it passes. -/
lemma under_eq_ok {key : String} {x : Checked α} {a : α} : x.under key = .ok a ↔ x = .ok a := by
  cases x <;> simp [under]

end Checked

/-- A setting is the default or has been read. -/
lemma exists_read_of_setting {α : Type} {entries : Entries} {key : String} {default a : α}
    {read : Yaml → Checked α} (h : setting entries key default read = .ok a) :
    a = default ∨ ∃ v, read v = .ok a := by
  unfold setting at h
  split at h
  case h_1 v _ => exact .inr ⟨v, Checked.under_eq_ok.mp h⟩
  case h_2 => exact .inl (Checked.ok.inj h).symm

/-! ## The provider that is asked -/

/-- Whether the provider that is asked has a section. -/
def Explanations.hasSection (e : Explanations) : Bool :=
  match e.provider with
  | .anthropic => e.anthropic.isSome
  | .gemini => e.gemini.isSome
  | .none => true

/-- The key in the section of the provider that is asked. -/
def Explanations.key? (e : Explanations) : Option String :=
  match e.provider with
  | .anthropic => e.anthropic.bind (·.apiKey)
  | .gemini => e.gemini.bind (·.apiKey)
  | .none => none

/-- Whether the key looks like a reference to a variable. -/
def Explanations.HoldsReference (e : Explanations) : Prop :=
  ∃ key, e.key? = some key ∧ key.startsWith "$\x7b" = true

/-- With the keys of the environment, the provider that is asked has a section. -/
lemma hasSection_withKeys (env : Environment) (e : Explanations) :
    (e.withKeys env).hasSection = true := by
  unfold Explanations.withKeys
  split
  case h_1 h => simp [Explanations.hasSection, h]
  case h_2 h => simp [Explanations.hasSection, h]
  case h_3 h => simp [Explanations.hasSection, h]

/-- The section of the explanation service is completed after it has been read. -/
lemma exists_withKeys_of_readExplanations {env : Environment} {entries : Entries} {e : Explanations}
    (h : readExplanations env entries = .ok e) : ∃ given : Explanations, e = given.withKeys env := by
  obtain ⟨given, -, rfl⟩ := Checked.map_eq_ok.mp h
  exact ⟨given, rfl⟩

/-- The default of the section is completed as well. -/
lemma exists_withKeys_of_readConfig {s : Surroundings} {entries : Entries} {c : Config}
    (h : readConfig s entries = .ok c) :
    ∃ given : Explanations, c.explanations = given.withKeys s.env := by
  simp only [readConfig, Checked.seq_eq_ok] at h
  obtain ⟨_, _, ⟨_, _, ⟨_, _, ⟨_, _, ⟨_, _, ⟨_, _, ⟨f, e, hserver, he, rfl⟩, -, rfl⟩, -, rfl⟩,
    -, rfl⟩, -, rfl⟩, -, rfl⟩, -, rfl⟩ := h
  obtain ⟨server, -, rfl⟩ := Checked.map_eq_ok.mp hserver
  rcases exists_read_of_setting he with rfl | ⟨v, hv⟩
  · exact ⟨{}, rfl⟩
  · unfold asSection at hv
    split at hv
    · exact exists_withKeys_of_readExplanations hv
    · exact absurd hv nofun

/-- Also in what is read from a whole file, the section is completed. -/
lemma exists_withKeys_of_ofEntries {s : Surroundings} {entries : Entries} {c : Config}
    (h : ofEntries s entries = .ok c) :
    ∃ given : Explanations, c.explanations = given.withKeys s.env := by
  have hread : ∀ entries : Entries,
      (readConfig s entries).toExcept.mapError LoadError.invalid = .ok c →
        ∃ given : Explanations, c.explanations = given.withKeys s.env := fun entries h =>
    exists_withKeys_of_readConfig (Checked.toExcept_eq_ok.mp (mapError_eq_ok_iff.mp h))
  unfold ofEntries at h
  split at h
  · exact absurd h nofun
  · obtain ⟨fromEnv, -, h⟩ := bind_eq_ok_iff.mp h
    split at h
    · exact hread _ h
    · exact hread _ h

/-- **Loading completes the section of the explanation service.** -/
theorem exists_withKeys_of_load {s : Surroundings} {file : Option (String × List Char)} {c : Config}
    (h : load s file = .ok c) : ∃ given : Explanations, c.explanations = given.withKeys s.env := by
  unfold load at h
  split at h
  case h_1 path text =>
    obtain ⟨expanded, -, h⟩ := bind_eq_ok_iff.mp h
    obtain ⟨value, -, h⟩ := bind_eq_ok_iff.mp h
    split at h
    · exact exists_withKeys_of_ofEntries h
    · split at h
      · exact exists_withKeys_of_ofEntries h
      · exact absurd h nofun
  case h_2 => exact exists_withKeys_of_ofEntries h

/-- A loaded configuration has a section for the provider that is asked. -/
lemma hasSection_of_load {s : Surroundings} {file : Option (String × List Char)} {c : Config}
    (h : load s file = .ok c) : c.explanations.hasSection = true := by
  obtain ⟨given, hgiven⟩ := exists_withKeys_of_load h
  rw [hgiven]
  exact hasSection_withKeys s.env given

/-! ## The two judgements -/

/-- A service is chosen if there is a key for it. -/
lemma isSome_selected?_iff (e : Explanations) : e.selected?.isSome = true ↔ hasKey e.key? = true := by
  obtain ⟨provider, anthropic, gemini, timeout, redactSecrets⟩ := e
  cases provider with
  | anthropic => cases anthropic <;> simp [Explanations.selected?, Explanations.key?, hasKey]
  | gemini => cases gemini <;> simp [Explanations.selected?, Explanations.key?, hasKey]
  | none => simp [Explanations.selected?, Explanations.key?, hasKey]

end Config

namespace Health

open Config

/-- The report looks at the same key, and at what it looks like. -/
lemma isUsableKey_iff (e : Explanations) :
    isUsableKey e.key? = true ↔ hasKey e.key? = true ∧ ¬ e.HoldsReference := by
  unfold Explanations.HoldsReference
  cases e.key? <;> simp [isUsableKey, hasKey]

/-- A section with a key is healthy if the key can be used. -/
lemma status_checkSection (provider : String) (key : Option String) (model : String) :
    (checkSection provider (some (key, model))).status =
      if isUsableKey key = true then .healthy else .degraded := by
  unfold checkSection
  dsimp only
  split <;> rfl

/-- With a section for the provider that is asked, the check tells whether the key is usable. -/
lemma status_checkProvider {e : Explanations} (h : e.hasSection = true) :
    (checkProvider e).status = if isUsableKey e.key? = true then .healthy else .degraded := by
  obtain ⟨provider, anthropic, gemini, timeout, redactSecrets⟩ := e
  cases provider with
  | anthropic =>
    obtain ⟨a, rfl⟩ := Option.isSome_iff_exists.mp h
    exact status_checkSection "anthropic" a.apiKey a.model
  | gemini =>
    obtain ⟨g, rfl⟩ := Option.isSome_iff_exists.mp h
    exact status_checkSection "gemini" g.apiKey g.model
  | none => rfl

/-! ### The check in the report -/

/-- The check of the configuration goes by its name. -/
lemma name_checkConfig (c : Config) : (checkConfig c).name = "config" := by
  unfold checkConfig
  split <;> rfl

/-- The check of the grammar goes by its name. -/
lemma name_checkGrammar (parse : Text.Bytes → Syntax.Tree) :
    (checkGrammar parse).name = "javascript_grammar" := by
  unfold checkGrammar
  split <;> rfl

/-- The check of a tool goes by the name of the tool. -/
lemma name_checkTool (isAvailable : String → Bool) (name executable : String) :
    (checkTool isAvailable name executable).name = name := by
  unfold checkTool
  dsimp only
  split <;> rfl

/-- The check of a section of a provider goes by the name for providers. -/
lemma name_checkSection (provider : String) (settings : Option (Option String × String)) :
    (checkSection provider settings).name = "llm_provider" := by
  unfold checkSection
  split
  · rfl
  · split <;> rfl

/-- The check of the provider goes by the same name. -/
lemma name_checkProvider (e : Explanations) : (checkProvider e).name = "llm_provider" := by
  unfold checkProvider
  split
  · rfl
  · exact name_checkSection _ _
  · exact name_checkSection _ _

/-- The report has one check of the explanation service. -/
lemma filter_checks (c : Config) (parse : Text.Bytes → Syntax.Tree) (isAvailable : String → Bool) :
    ((run c parse isAvailable).checks.filter fun check => check.name == "llm_provider") =
      [checkProvider c.explanations] := by
  simp [run, name_checkConfig, name_checkGrammar, name_checkTool, name_checkProvider]

/-! ## Keys that look like references -/

/-- What looks like a reference is not empty, so there is a key. -/
lemma hasKey_of_holdsReference {e : Explanations} (h : e.HoldsReference) : hasKey e.key? = true := by
  obtain ⟨key, hkey, hreference⟩ := h
  have hne : key ≠ "" := by
    rintro rfl
    exact absurd hreference (by decide +kernel)
  rw [hkey]
  simpa [hasKey] using hne

/-- **On a reference the two disagree**: the service is chosen, and the report says that there are no
explanations. -/
theorem disagrees_of_reference {e : Explanations} (h : e.HoldsReference) :
    e.selected?.isSome = true ∧ checkProvider e = degraded "llm_provider"
      (e.provider.name ++ " API key not configured; AI explanations disabled") := by
  refine ⟨(isSome_selected?_iff e).mpr (hasKey_of_holdsReference h), ?_⟩
  have hunusable : ¬ isUsableKey e.key? = true := fun husable => ((isUsableKey_iff e).mp husable).2 h
  obtain ⟨key, hkey, -⟩ := h
  obtain ⟨provider, anthropic, gemini, timeout, redactSecrets⟩ := e
  cases provider with
  | anthropic =>
    obtain ⟨a, rfl, ha⟩ := Option.bind_eq_some_iff.mp hkey
    exact if_neg hunusable
  | gemini =>
    obtain ⟨g, rfl, hg⟩ := Option.bind_eq_some_iff.mp hkey
    exact if_neg hunusable
  | none => exact absurd hkey nofun

/-! ## Loaded configurations -/

/-- **The health report tells when explanations are to be had**, but for keys that look like references:
in a loaded configuration the explanation service is healthy if and only if it is chosen and its key is
no reference. Otherwise it is degraded. -/
theorem checkProvider_healthy_iff {s : Surroundings} {file : Option (String × List Char)} {c : Config}
    (hload : load s file = .ok c) (parse : Text.Bytes → Syntax.Tree) (isAvailable : String → Bool) :
    ∃ check,
      ((run c parse isAvailable).checks.filter fun check => check.name == "llm_provider") = [check] ∧
        (check.status = .healthy ↔
          c.explanations.selected?.isSome = true ∧ ¬ c.explanations.HoldsReference) ∧
        (check.status ≠ .healthy → check.status = .degraded) := by
  refine ⟨checkProvider c.explanations, filter_checks c parse isAvailable, ?_, ?_⟩
  · rw [status_checkProvider (hasSection_of_load hload), isSome_selected?_iff, ← isUsableKey_iff]
    simp
  · rw [status_checkProvider (hasSection_of_load hload)]
    simp

/-- An environment in which the key is a reference that nobody has replaced. -/
def unreplacedKey : Surroundings where
  env := [("ANTHROPIC_API_KEY", "$\x7bKEY\x7d")]
  rcfile := "pylintrc"

/-- The configuration is read, and its key is the reference that nobody has replaced. -/
lemma key?_unreplacedKey :
    ((load unreplacedKey none).toOption.map fun c => c.explanations.key?) =
      some (some "$\x7bKEY\x7d") := by
  decide

/-- A key that is a reference, in the report of a service without tools. -/
theorem checkProvider_healthy_iff_reference :
    ∃ c check, load unreplacedKey none = .ok c ∧
      ((run c (fun _ => default) fun _ => false).checks.filter fun check =>
        check.name == "llm_provider") = [check] ∧
      c.explanations.selected?.isSome = true ∧ check.status = .degraded := by
  obtain ⟨c, hload, hkey⟩ := Option.map_eq_some_iff.mp key?_unreplacedKey
  replace hload : load unreplacedKey none = .ok c := by
    cases h : load unreplacedKey none with
    | error e => rw [h] at hload; exact absurd hload nofun
    | ok c' => rw [h] at hload; exact congrArg Except.ok (Option.some.inj hload)
  have hreference : c.explanations.HoldsReference := ⟨_, hkey, by decide +kernel⟩
  obtain ⟨check, hcheck, hhealthy, hdegraded⟩ :=
    checkProvider_healthy_iff hload (fun _ => default) fun _ => false
  refine ⟨c, check, hload, hcheck, (disagrees_of_reference hreference).1, hdegraded fun h => ?_⟩
  exact (hhealthy.mp h).2 hreference

end Health

end Diagnosis
