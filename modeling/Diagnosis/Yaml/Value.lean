/-!
# YAML values

The values of configuration files. Keys of mappings may be any scalars; a mapping keeps the order in
which its keys first came, and of a repeated key the last value counts.
-/

namespace Diagnosis

/-- A YAML value. -/
inductive Yaml where
  /-- The null value. -/
  | null
  /-- A truth value. -/
  | bool (b : Bool)
  /-- A whole number. -/
  | int (n : Int)
  /-- A double. -/
  | float (x : Float)
  /-- A text. -/
  | text (s : String)
  /-- A calendar date. -/
  | date (s : String)
  /-- A sequence of values. -/
  | list (items : List Yaml)
  /-- Keys and their values. -/
  | map (entries : List (Yaml × Yaml))
  deriving Inhabited, Repr

namespace Yaml

/-- Whether a value may be a key. -/
def isScalar : Yaml → Bool
  | list _ => false
  | map _ => false
  | _ => true

/-- The number that a scalar counts as when it is a key. -/
def keyNumber? : Yaml → Option Float
  | bool b => some (if b then 1.0 else 0.0)
  | int n => some (Float.ofInt n)
  | float x => some x
  | _ => none

/-- Whether two scalars are the same key. -/
def sameKey : Yaml → Yaml → Bool
  | null, null => true
  | text a, text b => a == b
  | date a, date b => a == b
  | int a, int b => a == b
  | a, b =>
    match a.keyNumber?, b.keyNumber? with
    | some x, some y => x == y
    | _, _ => false

/-- Sets a key: a known key keeps its place, a new one comes last. -/
def put (key value : Yaml) : List (Yaml × Yaml) → List (Yaml × Yaml)
  | [] => [(key, value)]
  | (k, v) :: rest => if sameKey k key then (k, value) :: rest else (k, v) :: put key value rest

/-- Whether a value counts as true: all do but null, false, zero and what is empty. -/
def isTruthy : Yaml → Bool
  | null => false
  | bool b => b
  | int n => n != 0
  | float x => x != 0.0
  | text s => s != ""
  | date _ => true
  | list items => !items.isEmpty
  | map entries => !entries.isEmpty

end Yaml

end Diagnosis
