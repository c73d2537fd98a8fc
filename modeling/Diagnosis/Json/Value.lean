/-!
# JSON values

`Json` is the type of the values that requests, replies, tool reports and settings carry.

* Whole numbers and doubles are different values: a literal with a fraction or an exponent is a
  double, every other number is whole and may be as large as it likes.
* A text that holds a surrogate without its partner is no string. It is kept as `illFormed`, so that
  whoever needs its bytes can say why there are none.
* An object keeps the order in which its keys first came.
-/

namespace Diagnosis

/-- A JSON value. -/
inductive Json where
  /-- The null value. -/
  | null
  /-- A truth value. -/
  | bool (b : Bool)
  /-- A whole number. -/
  | int (n : Int)
  /-- A double; the literals `NaN`, `Infinity` and `-Infinity` are doubles too. -/
  | float (x : Float)
  /-- A text. -/
  | string (s : String)
  /-- A text with a lone surrogate, as its code points. -/
  | illFormed (codes : List Nat)
  /-- A sequence of values. -/
  | array (items : List Json)
  /-- Keys and their values, each key once. -/
  | object (fields : List (String × Json))
  deriving Inhabited, Repr

namespace Json

/-- The value that a list of keys and values has for a key. -/
def find? (key : String) : List (String × Json) → Option Json
  | [] => none
  | (k, v) :: rest => if k = key then some v else find? key rest

/-- Sets a key: a known key keeps its place, a new one comes last. -/
def put (key : String) (value : Json) : List (String × Json) → List (String × Json)
  | [] => [(key, value)]
  | (k, v) :: rest => if k = key then (k, value) :: rest else (k, v) :: put key value rest

/-- The object with the given keys; of a repeated key the last value counts. -/
def ofFields (fields : List (String × Json)) : Json :=
  object (fields.foldl (fun acc (k, v) => put k v acc) [])

/-- The value of a key of an object. -/
def get? (key : String) : Json → Option Json
  | object fields => find? key fields
  | _ => none

/-- The value of a key of an object, null when it has none. -/
def getD (key : String) (v : Json) : Json := (v.get? key).getD null

/-- The text of a string. -/
def asString? : Json → Option String
  | string s => some s
  | _ => none

/-- The items of an array. -/
def asArray? : Json → Option (List Json)
  | array xs => some xs
  | _ => none

/-- The fields of an object. -/
def asObject? : Json → Option (List (String × Json))
  | object fields => some fields
  | _ => none

/-- A whole number. -/
def asInt? : Json → Option Int
  | int n => some n
  | _ => none

/-- Whether a value is null. -/
def isNull : Json → Bool
  | null => true
  | _ => false

/-- Whether a value counts as true: all do but null, false, zero and what is empty. -/
def isTruthy : Json → Bool
  | null => false
  | bool b => b
  | int n => n != 0
  | float x => x != 0.0
  | string s => s != ""
  | illFormed codes => !codes.isEmpty
  | array items => !items.isEmpty
  | object fields => !fields.isEmpty

/-- A string, or null for none. -/
def ofString? : Option String → Json
  | some s => string s
  | none => null

/-- A natural number, or null for none. -/
def ofNat? : Option Nat → Json
  | some n => int n
  | none => null

/-- An array of strings. -/
def strings (xs : List String) : Json := array (xs.map string)

end Json

end Diagnosis
