import Diagnosis.Lint.Config
import Mathlib.Data.List.Basic

/-!
# Settings read without knowing their kinds

The settings of rules are JSON values of any kind. `Diagnosis.Lint` takes them apart by their kind, so
nothing but a `SettingFault` can come of it. Here they are read with the operations that values have:
membership, lookup, comparison, fields, items. Such an operation raises a `Fault` where it is not defined
for the kind of a value. A message that quotes a value is another such operation: it raises a fault of its
own where the value cannot be quoted (`raiseQuoting`).

`Dynamic.rulesOf` reads all settings; what a rule that is on can have for options is `Active.InDomain`.
-/

namespace Diagnosis

namespace Lint.Dynamic

/-! ## What is read -/

/-- The options of a rule, as they are read. -/
inductive Options where
  /-- The rule has none. -/
  | none
  /-- A word. -/
  | word (word : String)
  /-- A style of quotes, and what is let pass. -/
  | quotes (style : String) (avoidEscape allowTemplates : Bool)
  /-- The byte that indents, how many make a level, and how many levels a case stands deeper. -/
  | indent (unit : UInt8) (width switchCase : Int)
  deriving Repr, DecidableEq

/-- A rule that is on, as it is read. -/
structure Active where
  /-- The name of the rule. -/
  name : String
  /-- The severity of its messages. -/
  severity : Severity
  /-- Its options. -/
  options : Options
  deriving Repr, DecidableEq

/-- Whether the options of a rule are such as it can have. -/
def Active.InDomain (a : Active) : Prop :=
  match a.name with
  | "semi" | "eol-last" => ∃ word ∈ ["always", "never"], a.options = .word word
  | "quotes" => ∃ style ∈ ["single", "double", "backtick"], ∃ avoidEscape allowTemplates,
      a.options = .quotes style avoidEscape allowTemplates
  | "indent" => ∃ unit ∈ [IndentUnit.space.byte, IndentUnit.tab.byte], ∃ width switchCase : Int,
      0 ≤ width ∧ 0 ≤ switchCase ∧ a.options = .indent unit width switchCase
  | _ => a.options = .none

/-! ## Operations on values -/

/-- What can be raised while settings are read. -/
inductive Fault where
  /-- A setting makes no sense. -/
  | config (message : String)
  /-- A value is none of those that are allowed, or cannot be written. -/
  | value (message : String)
  /-- An operation is not defined for a value of this kind. -/
  | kind
  /-- There is no such item or key. -/
  | missing
  /-- A value that a message should quote is nested too deep. -/
  | tooDeep
  deriving Repr, DecidableEq

/-- A step of the reading. -/
abbrev Reading := Except Fault

/-- The fault of a value that cannot be quoted. -/
def Fault.ofQuote : Json.QuoteFault → Fault
  | .tooManyDigits => .value Json.QuoteFault.tooManyDigits.message
  | .tooDeep => .tooDeep

/-- Raises a fault whose message quotes a value. -/
def raiseQuoting {α : Type} (v : Json) (fault : Fault) : Reading α :=
  match v.quoteFault? with
  | none => .error fault
  | some unquotable => .error (.ofQuote unquotable)

/-- A disjunction whose second part is looked at only if the first does not hold. -/
def either (a : Bool) (b : Reading Bool) : Reading Bool := if a then .ok true else b

/-- Whether a value is a word. -/
def isWord (v : Json) (word : String) : Bool := v.asString? == some word

/-- Whether a value is a truth value. -/
def isTruth : Json → Bool
  | .bool _ => true
  | _ => false

/-- Whether a value is a whole number; truth values are. -/
def isWhole : Json → Bool
  | .bool _ => true
  | .int _ => true
  | _ => false

/-- Whether a value is below zero, which can be asked of numbers only. -/
def isNegative : Json → Reading Bool
  | .bool _ => .ok false
  | .int n => .ok (n < 0)
  | .float x => .ok (x < 0)
  | _ => .error .kind

/-- The number that a value is. -/
def whole : Json → Reading Int
  | .bool b => .ok b.toNat
  | .int n => .ok n
  | _ => .error .kind

/-- The value of a field, which objects only have. -/
def field (v : Json) (key : String) (default : Json) : Reading Json :=
  match v with
  | .object fields => .ok ((Json.find? key fields).getD default)
  | _ => .error .kind

/-! ## Options -/

/-- A word from a list. -/
def choice (options : List Json) (allowed : List String) (default : String) : Reading String :=
  let value := options.head?.getD (.string default)
  if allowed.any (isWord value) then .ok value.display
  else raiseQuoting value (.value (OptionError.notAllowed value allowed).message)

/-- What the second option of `quotes` lets pass: whatever avoids an escape, and templates. -/
def leniency (given : Json) : Reading (Bool × Bool) :=
  let extra := if isWord given "avoid-escape" then .object [("avoidEscape", .bool true)] else given
  if extra.asObject?.isNone then
    raiseQuoting extra (.value (OptionError.badQuotesOption extra).message)
  else do
    let avoidEscape ← field extra "avoidEscape" (.bool false)
    let allowTemplates ← field extra "allowTemplateLiterals" (.bool false)
    return (avoidEscape.isTruthy, allowTemplates.isTruthy)

/-- The options of `quotes`. -/
def quotes (options : List Json) : Reading Options := do
  let style ← choice options (quoteStyles.map (·.1)) QuoteStyle.double.word
  let (avoidEscape, allowTemplates) ← leniency (options[1]?.getD (.object []))
  return .quotes style avoidEscape allowTemplates

/-- A whole number that is not below zero. -/
def natural (v : Json) (fault : Fault) : Reading Int := do
  if ← either (!isWhole v) (isNegative v) then throw fault else whole v

/-- How many levels a case stands deeper, by the second option of `indent`. -/
def caseLevels (extra : Json) : Reading Int :=
  if extra.asObject?.isNone then
    raiseQuoting extra (.value (OptionError.badIndentOption extra).message)
  else do
    let levels ← field extra "SwitchCase" (.int 0)
    natural levels (.value OptionError.badSwitchCase.message)

/-- What indents, and how many of it make a level, by the first option of `indent`. -/
def unitAndWidth (size : Json) : Reading (UInt8 × Int) :=
  if isWord size "tab" then .ok (IndentUnit.tab.byte, 1)
  else do
    if ← either (isTruth size || !isWhole size) (isNegative size) then
      raiseQuoting size (.value (OptionError.badIndentSize size).message)
    else return (IndentUnit.space.byte, ← whole size)

/-- The options of `indent`. -/
def indent (options : List Json) : Reading Options := do
  let levels ← caseLevels (options[1]?.getD (.object []))
  let (unit, width) ← unitAndWidth (options.head?.getD (.int 4))
  return .indent unit width levels

/-- The rules and how each reads its options. -/
def parsers : List (String × (List Json → Reading Options)) :=
  [("semi", fun options => .word <$> choice options (presences.map (·.1)) Presence.always.word),
    ("quotes", quotes),
    ("indent", indent),
    ("no-unused-vars", fun _ => .ok .none),
    ("no-undef", fun _ => .ok .none),
    ("no-console", fun _ => .ok .none),
    ("no-trailing-spaces", fun _ => .ok .none),
    ("eol-last", fun options => .word <$> choice options (presences.map (·.1)) Presence.always.word)]

/-! ## Settings -/

/-- Whether a value is of a kind that levels are of. -/
def isLevelKind : Json → Bool
  | .string _ => true
  | .illFormed _ => true
  | .int _ => true
  | _ => false

/-- What the table of levels has for a value. Only what cannot change is looked up; a truth value and a
double are found where the number is that they equal. -/
def levelAt? : Json → Reading (Option (Option Severity))
  | .array _ => .error .kind
  | .object _ => .error .kind
  | .bool b => .ok (levelOf? (.int b.toNat))
  | .float x => .ok <|
    if x == 0 then some none else if x == 1 then some (some .warning)
    else if x == 2 then some (some .error) else none
  | level => .ok (levelOf? level)

/-- The severity that the table of levels has for a value. -/
def severityAt (level : Json) : Reading (Option Severity) := do
  match ← levelAt? level with
  | some severity => return severity
  | none => throw .missing

/-- The level and the options of a setting. -/
def split (name : String) : Json → Reading (Json × List Json)
  | .array items =>
    if items.isEmpty then .error (.config (ConfigError.emptySetting name).message)
    else
      match items[0]? with
      | some level => .ok (level, items.drop 1)
      | none => .error .missing
  | level => .ok (level, [])

/-- Options that make no sense make a setting that makes none. -/
def asSetting {α : Type} (name : String) : Reading α → Reading α
  | .error (.value message) =>
    .error (.config (s!"Configuration for rule '{name}' is invalid: " ++ message))
  | parsed => parsed

/-- The rule that a setting asks for; none when it is off. -/
def readSetting (name : String) (setting : Json) : Reading (Option Active) :=
  match parsers.lookup name with
  | none => .error (.config (ConfigError.unknownRule name).message)
  | some parse => do
    let (level, options) ← split name setting
    if ← either (!isLevelKind level) (Option.isNone <$> levelAt? level) then
      raiseQuoting level (.config (ConfigError.badLevel name level).message)
    else
      match ← severityAt level with
      | none => return none
      | some severity =>
        let options ← asSetting name (parse options)
        return some ⟨name, severity, options⟩

/-- The rules that settings ask for, in their order. -/
def rulesOf (settings : List (String × Json)) : Reading (List Active) := do
  let found ← settings.mapM fun (name, setting) => readSetting name setting
  return found.filterMap id

end Lint.Dynamic

end Diagnosis
