import Diagnosis.Config.Environment
import Diagnosis.Json.Read
import Diagnosis.Yaml.Convert

/-!
# Settings from the environment

Settings may also come from environment variables: `CODE_DEBUGGER_SERVER__PORT` is the port of the
server, and `CODE_DEBUGGER_SERVER` may hold the whole section as JSON. Case does not matter. What a
configuration file says comes first.

Whether the value of a variable is JSON or plain text depends on the shape of the setting.
-/

namespace Diagnosis.Config

open Diagnosis.Text

/-- The shapes of settings. -/
inductive Shape where
  /-- A single value. -/
  | single
  /-- A list. -/
  | list
  /-- A mapping to any values. -/
  | mapping
  /-- Any value. -/
  | anything
  /-- A section, which may be left out if `optional`. -/
  | group (optional : Bool) (settings : List (String × Shape))
  deriving Inhabited

/-- How the value of a variable is read. -/
inductive Reading where
  /-- As a text. -/
  | plain
  /-- As JSON. -/
  | json
  /-- As JSON if it is, and else as a text. -/
  | jsonOrPlain
  deriving Repr, DecidableEq

/-- How the value for a setting of a shape is read. -/
def Shape.reading : Shape → Reading
  | single => .plain
  | list => .json
  | mapping => .json
  | anything => .jsonOrPlain
  | group true _ => .jsonOrPlain
  | group false _ => .json

/-- What the names of variables begin with. -/
def variablePrefix : String := "code_debugger_"

/-- The shape of a setting below another one. -/
def Shape.below? (key : String) : Shape → Option Shape
  | mapping => some anything
  | group _ settings =>
    (settings.find? fun s => s.1 == key || variablePrefix ++ s.1 == key).map (·.2)
  | _ => none

/-- The single settings of the given names. -/
def singles (names : List String) : List (String × Shape) := names.map fun n => (n, .single)

/-- The shapes of the sections of a configuration. -/
def sectionShapes : List (String × Shape) :=
  [("server",
      .group false (singles ["host", "port", "max_upload_bytes"] ++ [("cors_origins", .list)])),
    ("llm", .group false
      (singles ["provider", "timeout", "redact_secrets"]
        ++ [("anthropic",
              .group true (singles ["api_key", "model", "max_tokens", "temperature"])),
            ("gemini",
              .group true (singles
                ["api_key", "model", "base_url", "max_output_tokens", "temperature"]))])),
    ("javascript", .group false [("rules", .mapping)]),
    ("python", .group false (singles ["pylint_path", "rcfile"])),
    ("cfamily", .group false (singles ["compiler_path", "standard"] ++ [("extra_flags", .list)])),
    ("tools", .group false (singles ["timeout"])),
    ("ocr", .group false (singles ["language", "tesseract_cmd"])),
    ("logging", .group false
      (singles ["level", "format"] ++ [("file", .group false (singles ["enabled", "path"]))]))]

/-- A variable with the value of a section is not JSON. -/
structure BadSection where
  /-- The section. -/
  name : String
  deriving Repr, DecidableEq

/-- The wording of the error. -/
def BadSection.message (b : BadSection) : String :=
  "error parsing value for field \"" ++ b.name ++ "\" from source \"EnvSettingsSource\""

/-- The pieces of a text between pairs of underscores. -/
def splitPath : List Char → List (List Char)
  | [] => [[]]
  | '_' :: '_' :: rest => [] :: splitPath rest
  | c :: rest =>
    match splitPath rest with
    | [] => [[c]]
    | part :: parts => (c :: part) :: parts

/-- The value of a variable for a setting of a shape, if it can be read. An empty one is a text. -/
def readValue? (shape : Option Shape) (value : String) : Option Yaml :=
  let json := fun (_ : Unit) => (Json.read value).toOption.map Yaml.ofJson
  match if value.isEmpty then .plain else (shape.map (·.reading)).getD .plain with
  | .plain => some (.text value)
  | .json => json ()
  | .jsonOrPlain => some ((json ()).getD (.text value))

/-- Entries with a value at the end of a path. A value on the way that is no mapping is left alone.
-/
def putAt (value : Yaml) : List String → List (Yaml × Yaml) → List (Yaml × Yaml)
  | [], entries => entries
  | [key], entries => Yaml.put (.text key) value entries
  | key :: path, entries =>
    match Yaml.lookup? key entries with
    | none => Yaml.put (.text key) (.map (putAt value path [])) entries
    | some (.map inner) => Yaml.put (.text key) (.map (putAt value path inner)) entries
    | some _ => entries

/-- The shape at the end of a path. -/
def shapeAt? (shape : Shape) (path : List String) : Option Shape :=
  path.foldlM (fun s key => s.below? key) shape

/-- The settings of a section that variables give one by one. -/
def nestedSettings (env : Environment) (name : String) (shape : Shape) :
    Except BadSection (List (Yaml × Yaml)) :=
  let start := (variablePrefix ++ name ++ "__").toList
  env.foldlM (fun entries (variableName, value) =>
    if start.isPrefixOf variableName.toList then
      let path := (splitPath (variableName.toList.drop start.length)).map String.ofList
      match readValue? (shapeAt? shape path) value with
      | some v => .ok (putAt v path entries)
      | none => .error ⟨name⟩
    else .ok entries) []

mutual

/-- A section with the names of its settings in small letters. -/
def normalized (shape : Shape) : Yaml → Yaml
  | .map entries =>
    match shape with
    | .group _ settings => .map (normalizedEntries settings [] entries)
    | _ => .map entries
  | v => v

/-- The entries after those that have been normalized, with the names of settings in small letters.
-/
def normalizedEntries (settings : List (String × Shape)) (done : List (Yaml × Yaml)) :
    List (Yaml × Yaml) → List (Yaml × Yaml)
  | [] => done
  | (k, v) :: rest =>
    let known : Option (String × Shape) := match k with
      | .text name => settings.find? fun s => s.1 == lower name
      | _ => none
    let entry : Yaml × Yaml := match known with
      | some (name, .group false inner) => (.text name, normalized (.group false inner) v)
      | some (name, _) => (.text name, v)
      | none => (k, v)
    normalizedEntries settings (Yaml.put entry.1 entry.2 done) rest

end

/-- What variables say about a section, if they say something. -/
def sectionOverride (env : Environment) (name : String) (shape : Shape) :
    Except BadSection (Option Yaml) := do
  match env.lookup (variablePrefix ++ name) with
  | none =>
    let nested ← nestedSettings env name shape
    return if nested.isEmpty then none else some (normalized shape (.map nested))
  | some value =>
    match Json.read value with
    | .error _ => throw ⟨name⟩
    | .ok v =>
      match Yaml.ofJson v with
      | .null => return none
      | .map entries =>
        let nested ← nestedSettings env name shape
        return some (normalized shape ((Yaml.map entries).overlay (.map nested)))
      | other => return some other

/-- The variables with names in small letters; of two that are the same then the last one counts. -/
def foldedEnvironment (env : Environment) : Environment :=
  env.foldl (fun acc (name, value) =>
    let key := lower name
    if acc.any (·.1 == key) then acc.map fun e => if e.1 == key then (key, value) else e
    else acc ++ [(key, value)]) []

/-- What variables say about all sections. -/
def overrides (env : Environment) : Except BadSection (List (Yaml × Yaml)) := do
  let folded := foldedEnvironment env
  let found ← sectionShapes.mapM fun (name, shape) => do
    return (← sectionOverride folded name shape).map fun v => (Yaml.text name, v)
  return found.filterMap id

end Diagnosis.Config
