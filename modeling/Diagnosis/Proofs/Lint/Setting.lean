import Diagnosis.Proofs.Json.Limits
import Diagnosis.Proofs.Lint.Dynamic
import Diagnosis.Proofs.Steps
import Mathlib.Data.List.Forall2

/-!
# What settings of any kind lead to

Settings that are read without knowing their kinds give what settings give that are taken apart by
their kinds. So the only faults that get out are that of a setting that makes no sense, and that of one
that cannot be quoted.

* `Dynamic.rulesOf_eq`: the two readings are equal, one function at a time, each with a lemma that says
  what it gives (`choice_eq`, `quotes_eq`, `indent_eq`, `readSetting_eq`).
* `Dynamic.inDomain_activeOf`: what is read is in the domain of the options of the rule.
* `Dynamic.map_readRules`: the rules that are on come in the order of their settings.
* `isWritable_of_quoted?`: what the wording of an error quotes is a part of the settings, so it holds no
  number of too many digits if they hold none.
-/

namespace Diagnosis.Lint.Dynamic

/-! ## What the readings give -/

/-- A step that succeeds or fails with an error of its own, as a step of the reading. -/
def lift {ε α β : Type} (value : α → β) (fault : ε → Fault) (x : Except ε α) : Reading β :=
  (x.map value).mapError fault

/-- What a faulty option is raised as. -/
def Fault.ofOption (e : OptionError) : Fault :=
  (e.quoted?.bind Json.quoteFault?).elim (.value e.message) .ofQuote

/-- What is raised when settings are not read. -/
def Fault.ofSetting : SettingFault → Fault
  | .config e => .config e.message
  | .quoting fault => .ofQuote fault

/-- The options of a rule. -/
def optionsOf : Check → Options
  | .semi style => .word style.word
  | .quotes o => .quotes o.style.word o.avoidEscape o.allowTemplates
  | .indent o => .indent o.unit.byte o.width o.switchCase
  | .eolLast style => .word style.word
  | _ => .none

/-- What is read of a rule. -/
def activeOf (rule : Rule) : Active := ⟨rule.check.name, rule.severity, optionsOf rule.check⟩

/-- The options of rules are in their domains. -/
lemma inDomain_activeOf (rule : Rule) : (activeOf rule).InDomain := by
  obtain ⟨severity, check⟩ := rule
  cases check with
  | semi style => exact ⟨_, by cases style <;> decide, rfl⟩
  | eolLast style => exact ⟨_, by cases style <;> decide, rfl⟩
  | quotes o => exact ⟨_, by cases o.style <;> decide, _, _, rfl⟩
  | indent o =>
    exact ⟨_, by cases o.unit <;> decide, _, _, Int.natCast_nonneg _, Int.natCast_nonneg _, rfl⟩
  | _ => rfl

section values

variable {v : Json}

/-- A faulty option is raised, unless its value cannot be quoted. -/
lemma raiseQuoting_option {α : Type} {e : OptionError} (h : e.quoted? = some v) :
    (raiseQuoting v (.value e.message) : Reading α) = .error (.ofOption e) := by
  rw [raiseQuoting, Fault.ofOption, h, Option.bind_some]
  cases v.quoteFault? <;> rfl

/-- So is a faulty level. -/
lemma raiseQuoting_level {α : Type} (name : String) :
    (raiseQuoting v (.config (ConfigError.badLevel name v).message) : Reading α) =
      .error (.ofSetting (ConfigError.badLevel name v).raised) := by
  have hquoted : (ConfigError.badLevel name v).quoted? = some v := rfl
  unfold raiseQuoting ConfigError.raised
  rw [hquoted, Option.bind_some]
  cases v.quoteFault? with
  | none => rfl
  | some fault => cases fault <;> rfl

/-- Faulty options make a faulty setting. -/
lemma asSetting_error {α : Type} (name : String) (e : OptionError) :
    (asSetting name (.error (.ofOption e)) : Reading α) =
      .error (.ofSetting (ConfigError.badOptions name e).raised) := by
  have hquoted : (ConfigError.badOptions name e).quoted? = e.quoted? := rfl
  unfold Fault.ofOption ConfigError.raised
  rw [hquoted]
  cases e.quoted?.bind Json.quoteFault? with
  | none => rfl
  | some fault => cases fault <;> rfl

/-- A value is a string if it can be read as one. -/
lemma asString?_eq_some_iff {s : String} : v.asString? = some s ↔ v = .string s := by
  cases v <;> simp [Json.asString?]

/-- A value is a word if it is the string. -/
lemma isWord_iff {s : String} : isWord v s = true ↔ v = .string s := by
  rw [isWord, beq_iff_eq, asString?_eq_some_iff]

/-- A value is one of the words allowed if it is one of the strings. -/
lemma any_isWord_iff {allowed : List String} :
    allowed.any (isWord v) = true ↔ ∃ word ∈ allowed, v = .string word := by
  rw [List.any_eq_true]
  exact exists_congr fun word => and_congr_right fun _ => isWord_iff

end values

section choice

variable {α : Type} {choices : List (String × α)} {word : α → String} {default : α}
  {options : List Json}

/-- A choice is one of the words, and stands for what the word stands for. -/
lemma choice_eq (hword : ∀ p ∈ choices, p.1 = word p.2)
    (hdefault : word default ∈ choices.map (·.1)) :
    choice options (choices.map (·.1)) (word default) =
      lift word .ofOption (choose options choices default) := by
  unfold choice choose
  cases options with
  | nil =>
    have hany : (choices.map (·.1)).any (isWord (.string (word default))) = true :=
      any_isWord_iff.mpr ⟨_, hdefault, rfl⟩
    dsimp only [List.head?_nil, Option.getD_none]
    rw [if_pos hany]
    rfl
  | cons v more =>
    dsimp only [List.head?_cons, Option.getD_some]
    split
    case isTrue hany =>
      obtain ⟨w, hw, rfl⟩ := any_isWord_iff.mp hany
      obtain ⟨p, hp, rfl⟩ := List.mem_map.mp hw
      cases hlookup : choices.lookup p.1 with
      | none => exact absurd (List.lookup_eq_none_iff.mp hlookup p hp) (by simp)
      | some a =>
        obtain ⟨_, _, hsplit, -⟩ := List.lookup_eq_some_iff.mp hlookup
        have hmem : (p.1, a) ∈ choices := by rw [hsplit]; exact List.mem_append_right _ List.mem_cons_self
        rw [Json.asString?, Option.bind_some, hlookup, Json.display, hword _ hmem]
        rfl
    case isFalse hany =>
      have hnone : (v.asString?.bind fun w => choices.lookup w) = none := by
        refine Option.bind_eq_none_iff.mpr fun w hw => List.lookup_eq_none_iff.mpr fun p hp => ?_
        rw [bne_iff_ne]
        rintro rfl
        exact hany (any_isWord_iff.mpr ⟨p.1, List.mem_map_of_mem hp, asString?_eq_some_iff.mp hw⟩)
      rw [hnone, raiseQuoting_option rfl]
      rfl

end choice

section options

variable {options : List Json}

/-- Whether something should be there is chosen as the settings say. -/
lemma presence_eq :
    choice options (presences.map (·.1)) Presence.always.word =
      lift Presence.word .ofOption (choose options presences .always) :=
  choice_eq (by decide) (by decide)

/-- An object says which literals may be as they are. -/
lemma leniency_object (fields : List (String × Json)) :
    leniency (.object fields) =
      .ok (isOn fields "avoidEscape", isOn fields "allowTemplateLiterals") := by
  have hon : ∀ key, ((Json.find? key fields).getD (.bool false)).isTruthy = isOn fields key := by
    intro key
    unfold isOn
    cases Json.find? key fields <;> rfl
  change Except.ok (_, _) = _
  rw [hon, hon]

/-- What is neither an object nor the word for escapes is refused. -/
lemma leniency_eq_error {v : Json} (hobject : v.asObject? = none)
    (hword : v ≠ .string "avoid-escape") :
    leniency v = .error (.ofOption (.badQuotesOption v)) := by
  unfold leniency
  rw [if_neg (isWord_iff.not.mpr hword)]
  dsimp only
  rw [hobject]
  exact raiseQuoting_option rfl

/-- A second option of quotes that is any other word is refused. -/
lemma quoteOptions_of_word {v : Json} {s : String} {more : List Json} {style : QuoteStyle}
    (hstyle : choose (v :: .string s :: more) quoteStyles .double = .ok style)
    (hs : s ≠ "avoid-escape") :
    quoteOptions (v :: .string s :: more) = .error (.badQuotesOption (.string s)) := by
  unfold quoteOptions
  rw [hstyle]
  dsimp only [bind, Except.bind]
  split
  case h_1 heq => simp at heq
  case h_2 heq => simp [hs] at heq
  case h_3 heq =>
    rw [List.cons.injEq, List.cons.injEq] at heq
    rw [heq.2.1]
    rfl
  case h_4 hother => exact absurd rfl (hother v (.string s) more)

/-- The options of quotes are read as the settings say. -/
lemma quotes_eq :
    quotes options = lift (fun o => optionsOf (.quotes o)) .ofOption (quoteOptions options) := by
  unfold quotes
  rw [choice_eq (by decide) (by decide)]
  cases hstyle : choose options quoteStyles .double with
  | error e =>
    rw [quoteOptions, hstyle]
    rfl
  | ok style =>
    match options with
    | [] =>
      rw [quoteOptions, hstyle]
      rfl
    | [_] =>
      rw [quoteOptions, hstyle]
      rfl
    | v :: extra :: more =>
      rw [List.getElem?_cons_succ, List.getElem?_cons_zero, Option.getD_some]
      cases extra with
      | object fields =>
        rw [leniency_object, quoteOptions, hstyle]
        rfl
      | string s =>
        by_cases hs : s = "avoid-escape"
        · subst hs
          rw [quoteOptions, hstyle]
          rfl
        · rw [leniency_eq_error rfl (fun heq => hs (Json.string.inj heq)),
            quoteOptions_of_word hstyle hs]
          rfl
      | _ =>
        rw [leniency_eq_error rfl (by exact nofun), quoteOptions, hstyle]
        rfl

/-- A natural number is read, or refused with the given fault. -/
lemma natural_eq (v : Json) (fault : Fault) :
    natural v fault = (natural? v).elim (.error fault) fun n => .ok (n : Int) := by
  cases v with
  | bool b => rfl
  | int m =>
    rw [natural, isNegative, natural?]
    by_cases hm : m < 0
    · rw [decide_eq_true hm, if_pos hm]
      rfl
    · rw [decide_eq_false hm, if_neg hm]
      exact congrArg Except.ok (Int.toNat_of_nonneg (Int.not_lt.mp hm)).symm
  | _ => rfl

/-- The levels of cases are refused if they are not in an object. -/
lemma caseLevels_eq_error {v : Json} (hobject : v.asObject? = none) :
    caseLevels v = .error (.ofOption (.badIndentOption v)) := by
  rw [caseLevels, hobject]
  exact raiseQuoting_option rfl

/-- The levels of a case are those of the second option. -/
lemma caseLevels_eq :
    caseLevels (options[1]?.getD (.object [])) =
      lift (fun n : Nat => (n : Int)) .ofOption (switchCaseLevels options) := by
  match options with
  | [] => rfl
  | [_] => rfl
  | v :: extra :: more =>
    rw [List.getElem?_cons_succ, List.getElem?_cons_zero, Option.getD_some]
    cases extra with
    | object fields =>
      rw [switchCaseLevels]
      change natural _ _ = _
      rw [natural_eq]
      cases Json.find? "SwitchCase" fields with
      | none => rfl
      | some levels =>
        rw [Option.getD_some]
        dsimp only
        cases natural? levels <;> rfl
    | _ =>
      rw [caseLevels_eq_error rfl]
      rfl

/-- A size that is no word and no natural number is refused. -/
lemma unitAndWidth_eq_error {v : Json} (hword : v ≠ .string "tab")
    (hsize : either (isTruth v || !isWhole v) (isNegative v) = .ok true) :
    unitAndWidth v = .error (.ofOption (.badIndentSize v)) := by
  rw [unitAndWidth, if_neg (isWord_iff.not.mpr hword), hsize]
  exact raiseQuoting_option rfl

/-- A size that is any word but the one for tabs is refused. -/
lemma indentOptions_of_word {s : String} {more : List Json} {levels : Nat}
    (hlevels : switchCaseLevels (.string s :: more) = .ok levels) (hs : s ≠ "tab") :
    indentOptions (.string s :: more) = .error (.badIndentSize (.string s)) := by
  unfold indentOptions
  rw [hlevels]
  dsimp only [bind, Except.bind]
  split
  case h_1 heq => simp at heq
  case h_2 heq => simp [hs] at heq
  case h_3 heq => simp at heq
  case h_4 heq =>
    rw [List.cons.injEq] at heq
    rw [heq.1]
    rfl

/-- The options of indentation are read as the settings say. -/
lemma indent_eq :
    indent options = lift (fun o => optionsOf (.indent o)) .ofOption (indentOptions options) := by
  unfold indent
  rw [caseLevels_eq]
  cases hlevels : switchCaseLevels options with
  | error e =>
    rw [indentOptions, hlevels]
    rfl
  | ok levels =>
    match options with
    | [] =>
      rw [indentOptions, hlevels]
      rfl
    | size :: more =>
      rw [List.head?_cons, Option.getD_some]
      cases size with
      | string s =>
        by_cases hs : s = "tab"
        · subst hs
          rw [indentOptions, hlevels]
          rfl
        · rw [unitAndWidth_eq_error (fun heq => hs (Json.string.inj heq)) rfl,
            indentOptions_of_word hlevels hs]
          rfl
      | int n =>
        rw [indentOptions, hlevels]
        by_cases hn : n < 0
        · have hbelow : either (isTruth (.int n) || !isWhole (.int n)) (isNegative (.int n)) = .ok true :=
            congrArg Except.ok (decide_eq_true hn)
          rw [unitAndWidth_eq_error (by exact nofun) hbelow]
          change _ = lift _ _ (if n < 0 then _ else _)
          rw [if_pos hn]
          rfl
        · have hwidth : unitAndWidth (.int n) = .ok (IndentUnit.space.byte, (n.toNat : Int)) := by
            rw [Int.toNat_of_nonneg (Int.not_lt.mp hn), unitAndWidth, isNegative, decide_eq_false hn]
            rfl
          rw [hwidth]
          change _ = lift _ _ (if n < 0 then _ else _)
          rw [if_neg hn]
          rfl
      | _ =>
        rw [unitAndWidth_eq_error (by exact nofun) rfl, indentOptions, hlevels]
        rfl

end options

/-! ## Settings -/

section settings

variable {name : String} {setting : Json} {settings : List (String × Json)}

/-- What the options of a rule are read as, and by which name the rule goes. -/
structure Parses (rule : String × (List Json → Except OptionError Check))
    (parser : String × (List Json → Reading Options)) : Prop where
  name : parser.1 = rule.1
  parse : ∀ options, parser.2 options = lift optionsOf .ofOption (rule.2 options)
  named : ∀ options check, rule.2 options = .ok check → check.name = rule.1

/-- Lifting a step and changing what it gives is lifting with the change. -/
lemma lift_map {ε α β γ : Type} (value : β → γ) (fault : ε → Fault) (f : α → β) (x : Except ε α) :
    lift value fault (f <$> x) = lift (fun a => value (f a)) fault x := by
  cases x <;> rfl

/-- Changing what a lifted step gives is lifting with the change. -/
lemma map_lift {ε α β γ : Type} (value : α → β) (fault : ε → Fault) (f : β → γ) (x : Except ε α) :
    f <$> lift value fault x = lift (fun a => f (value a)) fault x := by
  cases x <;> rfl

/-- A check that is read has the name of its kind. -/
lemma named_of_map {α : Type} {f : α → Check} {x : Except OptionError α} {check : Check}
    (hname : ∀ a, (f a).name = name) (h : f <$> x = .ok check) : check.name = name := by
  cases x with
  | error e => exact absurd h nofun
  | ok a => exact Except.ok.inj h ▸ hname a

/-- A rule that reads its options in one step. -/
lemma parses_map {α : Type} {f : α → Check} {read : List Json → Except OptionError α}
    {parse : List Json → Reading Options} (hname : ∀ a, (f a).name = name)
    (hparse : ∀ options, parse options = lift (fun a => optionsOf (f a)) .ofOption (read options)) :
    Parses (name, fun options => f <$> read options) (name, parse) where
  name := rfl
  parse options := (hparse options).trans (lift_map _ _ f (read options)).symm
  named _ _ h := named_of_map hname h

/-- A rule without options. -/
lemma parses_none {check : Check} (hname : check.name = name) (hoptions : optionsOf check = .none) :
    Parses (name, fun _ => .ok check) (name, fun _ => .ok .none) where
  name := rfl
  parse _ := congrArg Except.ok hoptions.symm
  named _ _ h := Except.ok.inj h ▸ hname

/-- The rules and the parsers go together. -/
lemma forall₂_parses : List.Forall₂ Parses rules parsers := by
  have hpresence : ∀ f : Presence → Check, (∀ p, optionsOf (f p) = .word p.word) → ∀ options,
      Options.word <$> choice options (presences.map (·.1)) Presence.always.word =
        lift (fun p => optionsOf (f p)) .ofOption (choose options presences .always) := by
    intro f hf options
    rw [presence_eq, map_lift]
    simp only [hf]
  exact .cons (parses_map (fun _ => rfl) (hpresence .semi fun _ => rfl)) <|
    .cons (parses_map (fun _ => rfl) fun _ => quotes_eq) <|
    .cons (parses_map (fun _ => rfl) fun _ => indent_eq) <|
    .cons (parses_none rfl rfl) <| .cons (parses_none rfl rfl) <| .cons (parses_none rfl rfl) <|
    .cons (parses_none rfl rfl) <|
    .cons (parses_map (fun _ => rfl) (hpresence .eolLast fun _ => rfl)) .nil

/-- The rule and the parser of a name are both there or both are not. -/
lemma lookup_parses (name : String) :
    (rules.lookup name = none ∧ parsers.lookup name = none) ∨
      ∃ read parse, rules.lookup name = some read ∧ parsers.lookup name = some parse ∧
        Parses (name, read) (name, parse) := by
  have h := forall₂_parses
  generalize rules = rules at h ⊢
  generalize parsers = parsers at h ⊢
  induction h with
  | nil => exact .inl ⟨rfl, rfl⟩
  | @cons rule parser rules parsers hparses _ ih =>
    obtain ⟨ruleName, read⟩ := rule
    obtain ⟨parserName, parse⟩ := parser
    obtain rfl : parserName = ruleName := hparses.name
    rw [List.lookup_cons, List.lookup_cons]
    by_cases hname : name = parserName
    · subst hname
      rw [beq_self_eq_true]
      exact .inr ⟨read, parse, rfl, rfl, hparses⟩
    · rw [beq_eq_false_iff_ne.mpr hname]
      exact ih

/-- The levels of a setting are those that its first item, or the setting itself, is. -/
lemma split_eq (name : String) (setting : Json) :
    split name setting = lift id (fun e => .ofSetting e.raised) (splitSetting name setting) := by
  cases setting with
  | array items => cases items <;> rfl
  | _ => rfl

/-- A level is read as what the settings call it. -/
lemma level_eq (level : Json) :
    either (!isLevelKind level) (Option.isNone <$> levelAt? level) = .ok (levelOf? level).isNone := by
  cases level <;> rfl

/-- A level of the table is found there. -/
lemma severityAt_eq {level : Json} {severity : Option Severity} (h : levelOf? level = some severity) :
    severityAt level = .ok severity := by
  have hfound : levelAt? level = .ok (levelOf? level) := by
    cases level <;> first | rfl | exact absurd h nofun
  rw [severityAt, hfound, h]
  rfl

/-- **One setting.** -/
lemma readSetting_eq (name : String) (setting : Json) :
    readSetting name setting =
      lift (·.map activeOf) (fun e => .ofSetting e.raised) (Rule.ofSetting name setting) := by
  rw [readSetting, Rule.ofSetting]
  obtain ⟨hrule, hparser⟩ | ⟨read, parse, hrule, hparser, hparses⟩ := lookup_parses name
  · rw [hrule, hparser]
    rfl
  · rw [hrule, hparser, split_eq]
    cases hsplit : splitSetting name setting with
    | error e => rfl
    | ok parts =>
      obtain ⟨level, options⟩ := parts
      dsimp only [lift, Except.map, Except.mapError, bind, Except.bind, id]
      rw [level_eq]
      cases hseverity : levelOf? level with
      | none =>
        dsimp only [Option.isNone]
        rw [if_pos rfl, raiseQuoting_level]
        rfl
      | some severity? =>
        dsimp only [Option.isNone]
        rw [if_neg Bool.false_ne_true, severityAt_eq hseverity]
        cases severity? with
        | none => rfl
        | some severity =>
          dsimp only
          have hparse : parse options = lift optionsOf .ofOption (read options) :=
            hparses.parse options
          rw [hparse]
          cases hread : read options with
          | error e =>
            change (asSetting name (.error (.ofOption e)) >>= _) = _
            rw [asSetting_error]
            rfl
          | ok check =>
            have hname : check.name = name := hparses.named options check hread
            subst hname
            rfl

/-- **All settings.** -/
theorem rulesOf_eq (settings : List (String × Json)) :
    rulesOf settings = lift (·.map activeOf) .ofSetting (Lint.rulesOf settings) := by
  have hmap : settings.mapM (fun p => readSetting p.1 p.2) =
      lift (·.map (·.map activeOf)) (fun e => .ofSetting e.raised)
        (settings.mapM fun p => Rule.ofSetting p.1 p.2) := by
    induction settings with
    | nil => rfl
    | cons p settings ih =>
      rw [List.mapM_cons, List.mapM_cons, readSetting_eq p.1 p.2, ih]
      cases Rule.ofSetting p.1 p.2 with
      | error e => rfl
      | ok rule? =>
        cases settings.mapM fun p => Rule.ofSetting p.1 p.2 <;> rfl
  rw [rulesOf, Lint.rulesOf, readRules]
  change (settings.mapM (fun p => readSetting p.1 p.2) >>= _) =
    lift _ _ ((settings.mapM (fun p => Rule.ofSetting p.1 p.2) >>= _).mapError _)
  rw [hmap]
  cases settings.mapM fun p => Rule.ofSetting p.1 p.2 with
  | error e => rfl
  | ok found =>
    change Except.ok ((found.map (·.map activeOf)).filterMap id) =
      Except.ok ((found.filterMap id).map activeOf)
    rw [List.filterMap_map, List.map_filterMap]
    rfl

/-- The severity of a setting; none when it is off, or makes no sense. -/
def severityOf? (setting : Json) : Option Severity :=
  (levelOf? <|
    match setting with
    | .array (level :: _) => level
    | level => level).join

/-- The severity of a setting is that of its level. -/
lemma severityOf?_of_splitSetting {level : Json} {options : List Json}
    (h : splitSetting name setting = .ok (level, options)) :
    severityOf? setting = (levelOf? level).join := by
  cases setting with
  | array items =>
    cases items with
    | nil => exact absurd h nofun
    | cons v more =>
      obtain ⟨rfl, -⟩ := Prod.mk.inj (Except.ok.inj h)
      rfl
  | _ =>
    obtain ⟨rfl, -⟩ := Prod.mk.inj (Except.ok.inj h)
    rfl

/-- The rule of a setting that is on has its name and its severity; a setting that is off gives none. -/
lemma map_ofSetting {rule? : Option Rule} (h : Rule.ofSetting name setting = .ok rule?) :
    (rule?.map fun rule => (rule.check.name, rule.severity)) = (severityOf? setting).map (name, ·) := by
  rw [Rule.ofSetting] at h
  obtain ⟨hrule, -⟩ | ⟨read, parse, hrule, -, hparses⟩ := lookup_parses name
  · rw [hrule] at h
    exact absurd h nofun
  · rw [hrule] at h
    obtain ⟨⟨level, options⟩, hsplit, hlevel⟩ := bind_eq_ok_iff.mp h
    rw [severityOf?_of_splitSetting hsplit]
    dsimp only at hlevel
    cases hseverity : levelOf? level with
    | none =>
      rw [hseverity] at hlevel
      exact absurd hlevel nofun
    | some severity? =>
      rw [hseverity] at hlevel
      cases severity? with
      | none =>
        obtain rfl := Except.ok.inj hlevel
        rfl
      | some severity =>
        dsimp only at hlevel
        cases hread : read options with
        | error e =>
          rw [hread] at hlevel
          exact absurd hlevel nofun
        | ok check =>
          rw [hread] at hlevel
          obtain rfl := Except.ok.inj hlevel
          have hname : check.name = name := hparses.named options check hread
          rw [Option.map_some, hname]
          rfl

/-- The rules that are on come in the order of their settings. -/
theorem map_readRules {found : List Rule} (h : readRules settings = .ok found) :
    (found.map fun rule => (rule.check.name, rule.severity)) =
      settings.filterMap fun p => (severityOf? p.2).map (p.1, ·) := by
  obtain ⟨rules?, hrules, hfound⟩ := bind_eq_ok_iff.mp h
  obtain rfl := Except.ok.inj hfound
  clear h hfound
  induction settings generalizing rules? with
  | nil =>
    obtain rfl := Except.ok.inj hrules
    rfl
  | cons p settings ih =>
    rw [List.mapM_cons] at hrules
    obtain ⟨rule?, hrule, hrest⟩ := bind_eq_ok_iff.mp hrules
    obtain ⟨more, hmore, hcons⟩ := bind_eq_ok_iff.mp hrest
    obtain rfl := Except.ok.inj hcons
    have hhead := map_ofSetting hrule
    rw [List.filterMap_cons, List.filterMap_cons, ← hhead, ← ih more hmore]
    cases rule? <;> rfl

end settings

end Diagnosis.Lint.Dynamic

/-! ## What errors quote -/

namespace Diagnosis.Lint

variable {α β : Type} {options : List Json} {v : Json} {e : OptionError}

/-- An error of a step that is mapped is one of the step. -/
lemma error_of_map {f : α → β} {x : Except OptionError α} (h : f <$> x = .error e) : x = .error e := by
  cases x with
  | ok a => exact absurd h nofun
  | error e' => exact congrArg Except.error (Except.error.inj h)

/-- A choice that is not allowed is the first option. -/
lemma mem_of_choose {choices : List (String × α)} {default : α}
    (h : choose options choices default = .error e) (hv : e.quoted? = some v) : v ∈ options := by
  cases options with
  | nil => exact absurd h nofun
  | cons value more =>
    rw [choose] at h
    cases hchoice : value.asString?.bind fun word => choices.lookup word with
    | some a => simp [hchoice] at h
    | none =>
      rw [hchoice] at h
      obtain rfl := Except.error.inj h
      obtain rfl := Option.some.inj hv
      exact List.mem_cons_self

/-- What is wrong with the options of `quotes` is the first or the second of them. -/
lemma mem_of_quoteOptions (h : quoteOptions options = .error e) (hv : e.quoted? = some v) :
    v ∈ options := by
  obtain hstyle | ⟨style, -, hrest⟩ := bind_eq_error_iff.mp h
  · exact mem_of_choose hstyle hv
  · split at hrest
    case h_1 => exact absurd hrest nofun
    case h_2 => exact absurd hrest nofun
    case h_3 first other more _ _ =>
      obtain rfl := Except.error.inj hrest
      obtain rfl := Option.some.inj hv
      exact List.mem_cons_of_mem _ List.mem_cons_self
    case h_4 => exact absurd hrest nofun

/-- What is wrong with the levels of a case is the second option, or is not quoted. -/
lemma mem_of_switchCaseLevels (h : switchCaseLevels options = .error e) (hv : e.quoted? = some v) :
    v ∈ options := by
  unfold switchCaseLevels at h
  split at h
  case h_1 =>
    split at h
    case h_1 => exact absurd h nofun
    case h_2 =>
      split at h
      case h_1 => exact absurd h nofun
      case h_2 =>
        obtain rfl := Except.error.inj h
        exact absurd hv nofun
  case h_2 first other more _ =>
    obtain rfl := Except.error.inj h
    obtain rfl := Option.some.inj hv
    exact List.mem_cons_of_mem _ List.mem_cons_self
  case h_3 => exact absurd h nofun

/-- What is wrong with the options of `indent` is the first or the second of them, or is not quoted. -/
lemma mem_of_indentOptions (h : indentOptions options = .error e) (hv : e.quoted? = some v) :
    v ∈ options := by
  obtain hlevels | ⟨levels, -, hrest⟩ := bind_eq_error_iff.mp h
  · exact mem_of_switchCaseLevels hlevels hv
  · split at hrest
    case h_1 => exact absurd hrest nofun
    case h_2 => exact absurd hrest nofun
    case h_3 n more =>
      split at hrest
      case isTrue =>
        obtain rfl := Except.error.inj hrest
        obtain rfl := Option.some.inj hv
        exact List.mem_cons_self
      case isFalse => exact absurd hrest nofun
    case h_4 other more _ _ =>
      obtain rfl := Except.error.inj hrest
      obtain rfl := Option.some.inj hv
      exact List.mem_cons_self

/-- **What is wrong with options** is one of them, or is not quoted. -/
lemma mem_of_options : ∀ rule ∈ rules, ∀ {options e v}, rule.2 options = .error e →
    e.quoted? = some v → v ∈ options := by
  have hpresence : ∀ f : Presence → Check, ∀ {options : List Json} {e : OptionError} {v : Json},
      f <$> choose options presences .always = .error e → e.quoted? = some v → v ∈ options :=
    fun f _ _ _ h hv => mem_of_choose (error_of_map h) hv
  simp only [rules, List.forall_mem_cons]
  exact ⟨hpresence .semi, fun h hv => mem_of_quoteOptions (error_of_map h) hv,
    fun h hv => mem_of_indentOptions (error_of_map h) hv, nofun, nofun, nofun, nofun,
    hpresence .eolLast, nofun⟩

/-- The level and the options of a setting hold no number of too many digits if the setting holds none.
-/
lemma isWritable_of_splitSetting {name : String} {setting level : Json}
    (h : setting.isWritable = true) (hsplit : splitSetting name setting = .ok (level, options)) :
    level.isWritable = true ∧ ∀ v ∈ options, v.isWritable = true := by
  cases setting with
  | array items =>
    cases items with
    | nil => exact absurd hsplit nofun
    | cons first more =>
      obtain ⟨rfl, rfl⟩ := Prod.mk.inj (Except.ok.inj hsplit)
      rw [Json.isWritable, Json.areWritable_iff, List.forall_mem_cons] at h
      exact h
  | _ =>
    obtain ⟨rfl, rfl⟩ := Prod.mk.inj (Except.ok.inj hsplit)
    exact ⟨h, List.forall_mem_nil _⟩

/-- What the wording of a faulty setting quotes holds no number of too many digits if the setting holds
none. -/
lemma isWritable_of_ofSetting {name : String} {setting : Json} {e : ConfigError}
    (hsetting : setting.isWritable = true) (h : Rule.ofSetting name setting = .error e)
    (hv : e.quoted? = some v) : v.isWritable = true := by
  unfold Rule.ofSetting at h
  split at h
  case h_1 =>
    obtain rfl := Except.error.inj h
    exact absurd hv nofun
  case h_2 readOptions hlookup =>
    obtain hsplit | ⟨⟨level, options⟩, hsplit, hrest⟩ := bind_eq_error_iff.mp h
    · have hempty : e = .emptySetting name := by
        unfold splitSetting at hsplit
        split at hsplit
        case h_1 => exact (Except.error.inj hsplit).symm
        case h_2 => exact absurd hsplit nofun
        case h_3 => exact absurd hsplit nofun
      obtain rfl := hempty
      exact absurd hv nofun
    · obtain ⟨hlevel, hoptions⟩ := isWritable_of_splitSetting hsetting hsplit
      dsimp only at hrest
      split at hrest
      case h_1 =>
        obtain rfl := Except.error.inj hrest
        obtain rfl := Option.some.inj hv
        exact hlevel
      case h_2 => exact absurd hrest nofun
      case h_3 severity _ =>
        split at hrest
        case h_1 => exact absurd hrest nofun
        case h_2 e' herror =>
          obtain rfl := Except.error.inj hrest
          obtain ⟨_, _, htable, -⟩ := List.lookup_eq_some_iff.mp hlookup
          have hrule : (name, readOptions) ∈ rules := by simp [htable]
          exact hoptions v (mem_of_options _ hrule herror hv)

/-- **What the wording of an error quotes** holds no number of too many digits if the settings hold none.
-/
theorem isWritable_of_quoted? {settings : List (String × Json)} {e : ConfigError}
    (hsettings : ∀ p ∈ settings, p.2.isWritable = true) (h : readRules settings = .error e)
    (hv : e.quoted? = some v) : v.isWritable = true := by
  obtain hfound | ⟨_, -, hok⟩ := bind_eq_error_iff.mp h
  · clear h
    induction settings with
    | nil => exact absurd hfound nofun
    | cons p settings ih =>
      rw [List.forall_mem_cons] at hsettings
      rw [List.mapM_cons] at hfound
      obtain hsetting | ⟨_, -, hrest⟩ := bind_eq_error_iff.mp hfound
      · exact isWritable_of_ofSetting hsettings.1 hsetting hv
      · obtain hmore | ⟨_, -, hcons⟩ := bind_eq_error_iff.mp hrest
        · exact ih hsettings.2 hmore
        · exact absurd hcons nofun
  · exact absurd hok nofun

end Diagnosis.Lint
