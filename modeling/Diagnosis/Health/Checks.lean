import Diagnosis.Config.Settings
import Diagnosis.Health.Report
import Diagnosis.Lint.Linter

/-!
# Health checks

What analyses rely on: rules that make sense, a parser that reads JavaScript, the tools, and the
explanation service. A missing tool or key only degrades the service, as other languages still work.
-/

namespace Diagnosis.Health

open Diagnosis.Config

/-- Everything is well. -/
def healthy (name message : String) (details : List (String × Json) := []) : Check :=
  { name, status := .healthy, message, details }

/-- Something is missing. -/
def degraded (name message : String) (details : List (String × Json) := []) : Check :=
  { name, status := .degraded, message, details }

/-- Something is broken. -/
def unhealthy (name message : String) : Check := { name, status := .unhealthy, message }

/-- The keys in order. -/
def sortedKeys (fields : List (String × Json)) : List String :=
  (fields.map (·.1)).mergeSort fun a b => !decide (b < a)

/-- Whether the rules for JavaScript make sense. -/
def checkConfig (c : Config) : Check :=
  match Lint.rulesOf c.rules with
  | .error e => unhealthy "config" ("Configuration error: " ++ e.message)
  | .ok _ =>
    healthy "config" "Configuration valid"
      [("llm_provider", .string c.explanations.provider.name),
        ("javascript_rules", .strings (sortedKeys c.rules)),
        ("tool_timeout", optionalNumber c.toolTimeout)]

/-- A text that the parser must accept. -/
def probe : String := "const ok = 1;\n"

/-- Whether the parser reads JavaScript. -/
def checkGrammar (parse : Text.Bytes → Syntax.Tree) : Check :=
  match ((⟨[], parse⟩ : Lint.Linter).lint probe).messages with
  | m :: _ =>
    unhealthy "javascript_grammar" ("JavaScript grammar rejected valid code: " ++ m.message)
  | [] => healthy "javascript_grammar" "JavaScript grammar loaded"

/-- Whether a tool is there. -/
def checkTool (isAvailable : String → Bool) (name executable : String) : Check :=
  let details := [("executable", Json.string executable)]
  if isAvailable executable then healthy name (executable ++ " found") details
  else degraded name (executable ++ " not found in PATH") details

/-- Whether the key in a section can be used; a reference that has not been replaced is none. -/
def isUsableKey (key : Option String) : Bool := key.any fun k => !k.isEmpty && !k.startsWith "$\x7b"

/-- The check of the section of a provider. -/
def checkSection (provider : String) (settings : Option (Option String × String)) : Check :=
  match settings with
  | none => unhealthy "llm_provider" (provider ++ " configuration not found")
  | some (key, model) =>
    if isUsableKey key then
      healthy "llm_provider" (provider ++ " configured")
        [("provider", .string provider), ("model", .string model)]
    else
      degraded "llm_provider" (provider ++ " API key not configured; AI explanations disabled")

/-- Whether the explanation service can be asked. -/
def checkProvider (e : Explanations) : Check :=
  match e.provider with
  | .none => degraded "llm_provider" "AI explanations disabled"
  | .anthropic => checkSection "anthropic" (e.anthropic.map fun a => (a.apiKey, a.model))
  | .gemini => checkSection "gemini" (e.gemini.map fun g => (g.apiKey, g.model))

/-- All checks. -/
def run (c : Config) (parse : Text.Bytes → Syntax.Tree) (isAvailable : String → Bool) : Report :=
  ⟨[checkConfig c, checkGrammar parse, checkTool isAvailable "pylint" c.python.pylintPath,
    checkTool isAvailable "compiler" c.compiler.compiler, checkProvider c.explanations]⟩

end Diagnosis.Health
