import Diagnosis.Decimal.Layout
import Diagnosis.Json.Display
import Diagnosis.Yaml.Value

/-!
# YAML and JSON

Every JSON value is a YAML value. The other way round dates become texts, and so do keys that are
none.
-/

namespace Diagnosis.Yaml

mutual

/-- The YAML value that a JSON value is. -/
def ofJson : Json → Yaml
  | .null => null
  | .bool b => bool b
  | .int n => int n
  | .float x => float x
  | .string s => text s
  | .illFormed codes => text (Json.keyOfCodes codes)
  | .array items => list (ofItems items)
  | .object fields => map (ofFields fields)

/-- The items of an array as YAML values. -/
def ofItems : List Json → List Yaml
  | [] => []
  | v :: vs => ofJson v :: ofItems vs

/-- The fields of an object as entries. -/
def ofFields : List (String × Json) → List (Yaml × Yaml)
  | [] => []
  | (k, v) :: rest => (text k, ofJson v) :: ofFields rest

end

/-- A scalar as the text of a key. -/
def keyText : Yaml → String
  | text s => s
  | date s => s
  | null => "None"
  | bool b => if b then "true" else "false"
  | int n => toString n
  | float x => Decimal.plainLayout.write x
  | _ => ""

mutual

/-- The JSON value that stands for a YAML value. -/
def toJson : Yaml → Json
  | null => .null
  | bool b => .bool b
  | int n => .int n
  | float x => .float x
  | text s => .string s
  | date s => .string s
  | list items => .array (toItems items)
  | map entries => .object (toFields entries)

/-- The items of a sequence as JSON values. -/
def toItems : List Yaml → List Json
  | [] => []
  | v :: vs => toJson v :: toItems vs

/-- The entries of a mapping as fields. -/
def toFields : List (Yaml × Yaml) → List (String × Json)
  | [] => []
  | (k, v) :: rest => (keyText k, toJson v) :: toFields rest

end

/-- The value of a text key in entries. -/
def lookup? (key : String) : List (Yaml × Yaml) → Option Yaml
  | [] => none
  | (k, v) :: rest =>
    match k with
    | text s => if s = key then some v else lookup? key rest
    | _ => lookup? key rest

/-- The value at a key with another laid on it: mappings are joined key by key, and anything else
replaces what was there. -/
def overlay : Yaml → Yaml → Yaml
  | map base, map above => map (overlayEntries base above)
  | _, v => v
where
  /-- The entries of two mappings joined. -/
  overlayEntries (base : List (Yaml × Yaml)) : List (Yaml × Yaml) → List (Yaml × Yaml)
    | [] => base
    | (k, v) :: rest =>
      let old := (base.find? fun entry => sameKey entry.1 k).map (·.2)
      let new := match old with
        | some b => overlay b v
        | none => v
      overlayEntries (put k new base) rest

end Diagnosis.Yaml
