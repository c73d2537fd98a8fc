import Diagnosis.Config.Overrides
import Diagnosis.Config.Schema
import Diagnosis.Yaml.Read

/-!
# Loading a configuration

A configuration comes from a YAML file, in which references to environment variables are replaced
first, and from the environment, which speaks only of what the file leaves open. Everything else has
defaults.
-/

namespace Diagnosis.Config

/-- Why there is no configuration. -/
inductive LoadError where
  /-- The file refers to a variable that is not set. -/
  | unsetVariable (error : UnsetVariable)
  /-- The file is no YAML. -/
  | badYaml
  /-- The file does not hold a mapping. -/
  | notAMapping (path : String)
  /-- A section does not have a name. -/
  | unnamedSection
  /-- A variable cannot be read. -/
  | badSection (error : BadSection)
  /-- Settings have values that they may not have. -/
  | invalid (problems : List Problem)
  deriving Repr

/-- The wording of an error. -/
def LoadError.message : LoadError → String
  | unsetVariable error => error.message
  | badYaml => "the configuration file is no YAML"
  | notAMapping path => "Configuration root must be a mapping: " ++ path
  | unnamedSection => "keywords must be strings"
  | badSection error => error.message
  | invalid problems =>
    "\n".intercalate (problems.map fun p => ".".intercalate p.place ++ ": " ++ p.complaint.message)

/-- The configuration of entries and the environment. -/
def ofEntries (s : Surroundings) (entries : Entries) : Except LoadError Config := do
  if entries.any fun e => !(e.1 matches .text _) then throw .unnamedSection
  let fromEnv ← (overrides s.env).mapError .badSection
  match (Yaml.map fromEnv).overlay (.map entries) with
  | .map joined => (readConfig s joined).toExcept.mapError .invalid
  | _ => (readConfig s entries).toExcept.mapError .invalid

/-- A text with line feeds for all line breaks that files use. -/
def withLineFeeds : List Char → List Char
  | [] => []
  | '\r' :: '\n' :: rest => '\n' :: withLineFeeds rest
  | c :: rest => (if c = '\r' then '\n' else c) :: withLineFeeds rest

/-- The configuration of a file with the given path and text. -/
def ofText (s : Surroundings) (path : String) (text : List Char) : Except LoadError Config := do
  let expanded ← (substitute s.env (withLineFeeds text)).mapError .unsetVariable
  let value ← (Yaml.read expanded).mapError fun _ => .badYaml
  if !value.isTruthy then ofEntries s []
  else
    match value with
    | .map entries => ofEntries s entries
    | _ => throw (.notAMapping path)

/-- The configuration of a file, or of the environment alone. -/
def load (s : Surroundings) (file : Option (String × List Char)) : Except LoadError Config :=
  match file with
  | some (path, text) => ofText s path text
  | none => ofEntries s []

end Diagnosis.Config
