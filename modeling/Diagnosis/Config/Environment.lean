import Diagnosis.Text.Blank
import Diagnosis.Text.Case
import Diagnosis.Text.Lines

/-!
# The environment

Texts of configuration files may refer to environment variables: `${NAME}` stands for the value of
a variable, and `${NAME:-default}` has a default in case the variable is not set. What a reference
stands for is not looked at again, and comment lines are left as they are.
-/

namespace Diagnosis.Config

open Diagnosis.Text

/-- The names and values of environment variables. -/
abbrev Environment := List (String × String)

/-- A variable is not set. -/
structure UnsetVariable where
  /-- Its name. -/
  name : String
  deriving Repr, DecidableEq

/-- The wording of the error. -/
def UnsetVariable.message (u : UnsetVariable) : String :=
  "Environment variable " ++ u.name ++ " not found"

/-- A reference to a variable. -/
structure Reference where
  /-- The name of the variable. -/
  name : List Char
  /-- What stands for a variable that is not set. -/
  default : Option (List Char)
  deriving Repr, DecidableEq

/-- Whether a character may stand in the name of a variable. -/
def isNameChar (c : Char) : Bool := c != '\x7d' && c != ':'

/-- A reference after its dollar sign, and what comes after it. -/
def readReference? : List Char → Option (Reference × List Char)
  | '\x7b' :: rest =>
    let name := rest.takeWhile isNameChar
    if name.isEmpty then none
    else
      match rest.dropWhile isNameChar with
      | '\x7d' :: after => some (⟨name, none⟩, after)
      | ':' :: '-' :: tail =>
        match tail.dropWhile (· != '\x7d') with
        | '\x7d' :: after => some (⟨name, some (tail.takeWhile (· != '\x7d'))⟩, after)
        | _ => none
      | _ => none
  | _ => none

/-- What a reference stands for. -/
def Reference.value (env : Environment) (r : Reference) : Except UnsetVariable (List Char) :=
  match env.lookup (String.ofList r.name), r.default with
  | some v, _ => .ok v.toList
  | none, some d => .ok d
  | none, none => .error ⟨String.ofList r.name⟩

/-- The text with references replaced. `skip` characters still belong to the last reference. -/
def expandFrom (env : Environment) : Nat → List Char → Except UnsetVariable (List Char)
  | _, [] => .ok []
  | skip + 1, _ :: rest => expandFrom env skip rest
  | 0, c :: rest =>
    match if c = '$' then readReference? rest else none with
    | some (r, after) => do
      let value ← r.value env
      let more ← expandFrom env (rest.length - after.length) rest
      return value ++ more
    | none => (c :: ·) <$> expandFrom env 0 rest

/-- A line with references replaced. -/
def expandLine (env : Environment) (line : List Char) : Except UnsetVariable (List Char) :=
  expandFrom env 0 line

/-- Whether a line is a comment. -/
def isComment (line : List Char) : Bool := (line.dropWhile isBlank).head? == some '#'

/-- A text with references replaced, line by line. -/
def substitute (env : Environment) (text : List Char) : Except UnsetVariable (List Char) := do
  let expanded ← (linesWithEnds text).mapM fun l =>
    let line := l.body ++ l.ending
    if isComment line then .ok line else expandLine env line
  return expanded.flatten

end Diagnosis.Config
