import Diagnosis.Json.Display
import Diagnosis.Lint.Rule.Semi
import Diagnosis.Lint.Rule.Quotes
import Diagnosis.Lint.Rule.Indent
import Diagnosis.Lint.Rule.Names
import Diagnosis.Lint.Rule.Whitespace

/-!
# Rule settings

A rule is set by a level, or by a list of a level and options. `Rule.ofSetting` reads a setting:
a rule that is off gives none, a setting that makes no sense is a `ConfigError`.

The wording of an error quotes the value that makes no sense. Where that value cannot be quoted the
error is not raised, and a `SettingFault` says what is raised in its place.
-/

namespace Diagnosis.Lint

/-- A rule with its options. -/
inductive Check where
  /-- Semicolons at the ends of statements. -/
  | semi (style : Presence)
  /-- The quotes of strings. -/
  | quotes (options : QuoteOptions)
  /-- The indentation of lines. -/
  | indent (options : IndentOptions)
  /-- Bindings that nobody reads. -/
  | noUnusedVars
  /-- Names that nobody declares. -/
  | noUndef
  /-- Uses of the console. -/
  | noConsole
  /-- Blanks at the ends of lines. -/
  | noTrailingSpaces
  /-- The line feed at the end of the text. -/
  | eolLast (style : Presence)
  deriving Repr, DecidableEq

namespace Check

/-- The name of the rule. -/
def name : Check → String
  | semi _ => "semi"
  | quotes _ => "quotes"
  | indent _ => "indent"
  | noUnusedVars => "no-unused-vars"
  | noUndef => "no-undef"
  | noConsole => "no-console"
  | noTrailingSpaces => "no-trailing-spaces"
  | eolLast _ => "eol-last"

/-- The findings of the rule. -/
def findings : Check → Subject → List Finding
  | semi style => Semi.check style
  | quotes options => Quotes.check options
  | indent options => Indent.check options
  | noUnusedVars => Names.checkUnused
  | noUndef => Names.checkUndefined
  | noConsole => Names.checkConsole
  | noTrailingSpaces => Whitespace.checkTrailing
  | eolLast style => Whitespace.checkLast style

end Check

/-- A rule that is on. -/
structure Rule where
  /-- The severity of its messages. -/
  severity : Severity
  /-- What it checks. -/
  check : Check
  deriving Repr, DecidableEq

/-- The messages of a rule. -/
def Rule.messages (rule : Rule) (subject : Subject) : List Message :=
  (rule.check.findings subject).map (Finding.toMessage rule.check.name rule.severity)

/-! ## Faulty settings -/

/-- What is wrong with the options of a rule. -/
inductive OptionError where
  /-- The option is not one of the allowed words. -/
  | notAllowed (value : Json) (allowed : List String)
  /-- The second option of `quotes` makes no sense. -/
  | badQuotesOption (value : Json)
  /-- The second option of `indent` makes no sense. -/
  | badIndentOption (value : Json)
  /-- The levels of a case are no natural number. -/
  | badSwitchCase
  /-- The width of a level is neither a natural number nor a tab. -/
  | badIndentSize (value : Json)
  /-- An option that makes no sense holds a number of too many digits. -/
  | unwritable
  deriving Repr

/-- What is wrong with the setting of a rule. -/
inductive ConfigError where
  /-- There is no such rule. -/
  | unknownRule (name : String)
  /-- The setting is an empty list. -/
  | emptySetting (name : String)
  /-- The level is none of the known ones. -/
  | badLevel (name : String) (level : Json)
  /-- The options make no sense. -/
  | badOptions (name : String) (error : OptionError)
  deriving Repr

/-- The wording of a faulty option. -/
def OptionError.message : OptionError → String
  | notAllowed value allowed =>
    "Value " ++ value.shown ++ " should be one of " ++ String.intercalate ", " allowed
  | badQuotesOption value => "Unexpected quotes option " ++ value.shown
  | badIndentOption value => "Unexpected indent option " ++ value.shown
  | badSwitchCase => "SwitchCase must be a non-negative integer"
  | badIndentSize value =>
    "Indent size must be a non-negative integer or 'tab', got " ++ value.shown
  | unwritable => Json.QuoteFault.tooManyDigits.message

/-- The wording of a faulty setting. -/
def ConfigError.message : ConfigError → String
  | unknownRule name => s!"Definition for rule '{name}' was not found."
  | emptySetting name => s!"Configuration for rule '{name}' is empty."
  | badLevel name level =>
    s!"Configuration for rule '{name}' is invalid: Severity should be one of the following: "
      ++ "0 = off, 1 = warn, 2 = error (you passed '" ++ level.display ++ "')."
  | badOptions name error => s!"Configuration for rule '{name}' is invalid: " ++ error.message

/-- The value that the wording of a faulty option quotes. -/
def OptionError.quoted? : OptionError → Option Json
  | notAllowed value _ | badQuotesOption value | badIndentOption value | badIndentSize value =>
    some value
  | badSwitchCase | unwritable => none

/-- The value that the wording of a faulty setting quotes. -/
def ConfigError.quoted? : ConfigError → Option Json
  | unknownRule _ | emptySetting _ => none
  | badLevel _ level => some level
  | badOptions _ error => error.quoted?

/-- What is raised when settings are not read. -/
inductive SettingFault where
  /-- A setting makes no sense. -/
  | config (error : ConfigError)
  /-- A setting makes no sense, and it cannot be quoted. -/
  | quoting (fault : Json.QuoteFault)
  deriving Repr

/-- The wording of a fault. -/
def SettingFault.message : SettingFault → String
  | config error => error.message
  | quoting fault => fault.message

/-- What is raised for a setting that makes no sense. A number of too many digits among options counts
as one more thing that is wrong with them. -/
def ConfigError.raised (e : ConfigError) : SettingFault :=
  match e.quoted?.bind Json.quoteFault?, e with
  | none, e => .config e
  | some .tooManyDigits, .badOptions name _ => .config (.badOptions name .unwritable)
  | some fault, _ => .quoting fault

/-! ## Options -/

/-- The choice that the first option makes, or the default when there is none. -/
def choose {α : Type} (options : List Json) (choices : List (String × α)) (default : α) :
    Except OptionError α :=
  match options with
  | [] => .ok default
  | value :: _ =>
    match value.asString?.bind fun word => choices.lookup word with
    | some a => .ok a
    | none => .error (.notAllowed value (choices.map (·.1)))

/-- The words for a presence. -/
def presences : List (String × Presence) := [("always", .always), ("never", .never)]

/-- The words for quotes. -/
def quoteStyles : List (String × QuoteStyle) :=
  [("single", .single), ("double", .double), ("backtick", .backtick)]

/-- Whether an option is switched on. -/
def isOn (fields : List (String × Json)) (key : String) : Bool :=
  ((Json.find? key fields).map Json.isTruthy).getD false

/-- The options of `quotes`. -/
def quoteOptions (options : List Json) : Except OptionError QuoteOptions := do
  let style ← choose options quoteStyles .double
  match options with
  | _ :: .object fields :: _ =>
    return ⟨style, isOn fields "avoidEscape", isOn fields "allowTemplateLiterals"⟩
  | _ :: .string "avoid-escape" :: _ => return ⟨style, true, false⟩
  | _ :: other :: _ => throw (.badQuotesOption other)
  | _ => return ⟨style, false, false⟩

/-- A natural number; truth values count as one and zero. -/
def natural? : Json → Option Nat
  | .bool b => some b.toNat
  | .int n => if n < 0 then none else some n.toNat
  | _ => none

/-- The number of levels of a case. -/
def switchCaseLevels : List Json → Except OptionError Nat
  | _ :: .object fields :: _ =>
    match Json.find? "SwitchCase" fields with
    | none => .ok 0
    | some v => match natural? v with
      | some n => .ok n
      | none => .error .badSwitchCase
  | _ :: other :: _ => .error (.badIndentOption other)
  | _ => .ok 0

/-- The options of `indent`. -/
def indentOptions (options : List Json) : Except OptionError IndentOptions := do
  let switchCase ← switchCaseLevels options
  match options with
  | [] => return ⟨.space, 4, switchCase⟩
  | .string "tab" :: _ => return ⟨.tab, 1, switchCase⟩
  | .int n :: _ =>
    if n < 0 then throw (.badIndentSize (.int n)) else return ⟨.space, n.toNat, switchCase⟩
  | other :: _ => throw (.badIndentSize other)

/-! ## Rules -/

/-- The rules and how each reads its options. -/
def rules : List (String × (List Json → Except OptionError Check)) :=
  [("semi", fun options => Check.semi <$> choose options presences .always),
    ("quotes", fun options => Check.quotes <$> quoteOptions options),
    ("indent", fun options => Check.indent <$> indentOptions options),
    ("no-unused-vars", fun _ => .ok .noUnusedVars),
    ("no-undef", fun _ => .ok .noUndef),
    ("no-console", fun _ => .ok .noConsole),
    ("no-trailing-spaces", fun _ => .ok .noTrailingSpaces),
    ("eol-last", fun options => Check.eolLast <$> choose options presences .always)]

/-- The severity of a level: none for off, an outer none for what is no level. -/
def levelOf? : Json → Option (Option Severity)
  | .string "off" => some none
  | .string "warn" => some (some .warning)
  | .string "error" => some (some .error)
  | .int 0 => some none
  | .int 1 => some (some .warning)
  | .int 2 => some (some .error)
  | _ => none

/-- The level and the options of a setting. -/
def splitSetting (name : String) : Json → Except ConfigError (Json × List Json)
  | .array [] => .error (.emptySetting name)
  | .array (level :: options) => .ok (level, options)
  | level => .ok (level, [])

/-- The rule that a setting asks for; none when it is off. The options of a rule that is off are not
looked at. -/
def Rule.ofSetting (name : String) (setting : Json) : Except ConfigError (Option Rule) :=
  match rules.lookup name with
  | none => .error (.unknownRule name)
  | some readOptions => do
    let (level, options) ← splitSetting name setting
    match levelOf? level with
    | none => throw (.badLevel name level)
    | some none => return none
    | some (some severity) =>
      match readOptions options with
      | .ok check => return some ⟨severity, check⟩
      | .error e => throw (.badOptions name e)

/-- The rules that settings ask for, in their order, or what is wrong with the first setting that makes
no sense. -/
def readRules (settings : List (String × Json)) : Except ConfigError (List Rule) := do
  let found ← settings.mapM fun (name, setting) => Rule.ofSetting name setting
  return found.filterMap id

/-- The rules that settings ask for, in their order. -/
def rulesOf (settings : List (String × Json)) : Except SettingFault (List Rule) :=
  (readRules settings).mapError ConfigError.raised

end Diagnosis.Lint
