import Diagnosis.Json.Value
import Diagnosis.Pattern.Template
import Diagnosis.Secret.Pattern

/-!
# Redaction

A `Redactor` finds secrets in a text and puts a placeholder in their place. It looks for one form
after the other, each in the text that the forms before have left.

Redaction fails rather than let a secret through: a pattern or a placeholder that makes no sense is
an error.
-/

namespace Diagnosis.Secret

open Diagnosis.Pattern

/-- Why redaction fails. -/
inductive RedactionError where
  /-- A pattern is refused. -/
  | badPattern (source : String) (fault : Fault)
  /-- The placeholder is refused. -/
  | badPlaceholder (source : String) (fault : Fault)
  deriving Repr, DecidableEq

/-- The wording of an error. -/
def RedactionError.message : RedactionError → String
  | badPattern source fault =>
    "Failed to compile secret pattern '" ++ source ++ "': " ++ fault.message source.toList
  | badPlaceholder source fault =>
    "Redaction failed: " ++ templateMessage source.toList fault

/-- Finds secrets and replaces them. -/
structure Redactor where
  /-- What is put in the place of a secret. -/
  placeholder : String := "[REDACTED]"
  /-- The forms of secrets, in the order in which they are looked for. -/
  forms : List Form := Secret.forms

/-- The form of the secrets that a written pattern describes. -/
def Form.read (source kind : String) : Except RedactionError Form :=
  match Regex.read source with
  | .ok regex => .ok { kind, regex }
  | .error fault => .error (.badPattern source fault)

namespace Redactor

/-- The redactor with a placeholder that also looks for the secrets that written patterns describe.
-/
def withPatterns (placeholder : String) (patterns : List (String × String)) :
    Except RedactionError Redactor := do
  let more ← patterns.mapM fun (source, kind) => Form.read source kind
  return { placeholder, forms := Secret.forms ++ more }

variable (r : Redactor)

/-- What the placeholder puts in place of a secret of a form. -/
def template (f : Form) : Except RedactionError (List TemplatePart) :=
  let source := r.placeholder.toList
  if source.contains '\\' then
    match readTemplate f.groups source with
    | .ok parts => .ok parts
    | .error fault => .error (.badPlaceholder r.placeholder fault)
  else .ok (source.map .char)

/-- Replaces the secrets of one form. -/
def redactForm (s : List Char) (f : Form) : Except RedactionError (List Char) := do
  let parts ← r.template f
  return f.regex.replace (fillTemplate parts) s

/-- The text with the placeholder in place of every secret. -/
def redact (s : String) : Except RedactionError String :=
  if s.isEmpty then .ok s else String.ofList <$> r.forms.foldlM r.redactForm s.toList

/-- The kinds of the secrets in a text, in the order of the forms. -/
def detect (s : String) : List String :=
  if s.isEmpty then [] else (r.forms.filter (·.regex.occursIn s.toList)).map (·.kind)

/-- Whether there is a secret in a text. -/
def hasSecret (s : String) : Bool := !(r.detect s).isEmpty

/-! ## Values

A JSON value without secrets: every text in it is redacted, at any depth. The keys of objects stay as
they are. -/

mutual

/-- The value with its texts redacted. -/
def redactValue (r : Redactor) : Json → Except RedactionError Json
  | .string s => .string <$> r.redact s
  | .array items => .array <$> r.redactItems items
  | .object fields => .object <$> r.redactFields fields
  | v => .ok v

/-- The items with their texts redacted. -/
def redactItems (r : Redactor) : List Json → Except RedactionError (List Json)
  | [] => .ok []
  | v :: vs => do return (← r.redactValue v) :: (← r.redactItems vs)

/-- The fields with their texts redacted. -/
def redactFields (r : Redactor) :
    List (String × Json) → Except RedactionError (List (String × Json))
  | [] => .ok []
  | (k, v) :: rest => do return (k, ← r.redactValue v) :: (← r.redactFields rest)

end

end Redactor

end Diagnosis.Secret
