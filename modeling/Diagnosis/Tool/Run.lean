import Diagnosis.Text.Search

/-!
# Tool runs

What has come of running an external tool, and how to tell from its error output that the tool is
not installed.
-/

namespace Diagnosis.Tool

open Diagnosis.Text

/-- What has come of running a tool. -/
inductive Run where
  /-- It has finished, with its output, its error output and its exit status. -/
  | finished (output errors : String) (status : Int)
  /-- It took too long. -/
  | timedOut (message : String)
  /-- It has not started, for a reason if one is known. -/
  | notStarted (message : String) (cause : Option String)
  deriving Repr, DecidableEq, Inhabited

/-- What a shell or a launcher writes when a tool is not installed. -/
def missingPhrases (tool : String) : List String :=
  ["'" ++ tool ++ "' is not recognized", "command not found: " ++ tool,
    tool ++ ": command not found", "No module named " ++ tool]

/-- Whether error output says that a tool is not installed. -/
def isMissing (tool errors : String) : Bool :=
  (missingPhrases tool).any (stringOccurs · errors)

/-- Runs a tool with the given arguments. -/
abbrev Runner := List String → Run

end Diagnosis.Tool
