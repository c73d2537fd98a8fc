import Diagnosis.Config.Settings
import Diagnosis.Secret.Hygiene

/-!
# Describing a configuration

A configuration as a list of settings, each named by the keys that lead to it. Settings that are
named like credentials are masked; the rules for JavaScript are left out.
-/

namespace Diagnosis.Config

mutual

/-- The settings in a value below a key. -/
def flatten (key : String) : Json → List (String × Json)
  | .object fields => flattenFields key fields
  | .string s => [(key, .string (Secret.mask key s))]
  | v => [(key, v)]

/-- The settings in fields below a key. -/
def flattenFields (key : String) : List (String × Json) → List (String × Json)
  | [] => []
  | (k, v) :: rest =>
    flatten (if key.isEmpty then k else key ++ "." ++ k) v ++ flattenFields key rest

end

/-- The settings of a configuration. -/
def describe (c : Config) : List (String × Json) :=
  flatten "" (.object (c.sections.filter (·.1 != "javascript")))

end Diagnosis.Config
