import Diagnosis.Analysis.Outcome
import Diagnosis.Explain.Table
import Diagnosis.Lint.Linter

/-!
# Analysis of JavaScript

JavaScript is linted, and the linter's mended text is passed on. Where the rules make no sense the
analysis fails and says why; where this cannot be said, because a setting cannot be quoted, there is no
analyzer.
-/

namespace Diagnosis.Analysis

open Diagnosis.Text Diagnosis.Report Diagnosis.Explain

/-- The diagnostic that a linter message gives. -/
def diagnosticOfMessage (m : Lint.Message) : Diagnostic :=
  let entry := lookup m.rule m.message
  { severity := m.severity, message := m.message, explanation := entry.explanation,
    suggestion := entry.suggestion, rule := .ofString? m.rule, line := m.start.line,
    column := m.start.column, endLine := .ofNat? (m.stop.map (·.line)),
    endColumn := .ofNat? (m.stop.map (·.column)) }

/-- What analyses JavaScript: a linter, or the reason why there is none. -/
structure JavaScriptAnalyzer where
  /-- The linter. -/
  linter : Except Lint.ConfigError Lint.Linter
  /-- Who asks the explanation service. -/
  consultant : Consultant

namespace JavaScriptAnalyzer

/-- The analyzer with the rules that settings ask for. It keeps what is wrong with them. -/
def ofSettings (settings : List (String × Json)) (parse : Bytes → Syntax.Tree)
    (consultant : Consultant) : Except Json.QuoteFault JavaScriptAnalyzer :=
  match Lint.rulesOf settings with
  | .ok rules => .ok { linter := .ok ⟨rules, parse⟩, consultant }
  | .error (.config error) => .ok { linter := .error error, consultant }
  | .error (.quoting fault) => .error fault

/-- What is said when the linter cannot be run. -/
def linterFailed : String := "Failed to run the JavaScript linter. Check server logs for details."

/-- Analyses a text. -/
def analyze (a : JavaScriptAnalyzer) (code : LooseText) : Outcome :=
  match a.linter with
  | .error fault => .failed linterFailed (some fault.message)
  | .ok linter =>
    match code.strict with
    | .error fault => .failed linterFailed (some fault.message)
    | .ok source =>
      let report := linter.lint source
      Findings.explained
        { code := source, language := "javascript"
          diagnostics := report.messages.map diagnosticOfMessage
          fixedCode := report.output }
        a.consultant

end JavaScriptAnalyzer

end Diagnosis.Analysis
