import Diagnosis.Report.Diagnostic
import Diagnosis.Secret.Redactor

/-!
# Prompts

What the explanation service is asked: the text, its language and the diagnostics, one on a line.
Secrets are taken out of the text and of the diagnostics first, if a redactor is given.
-/

namespace Diagnosis.Explain

open Diagnosis.Report Diagnosis.Secret

/-- The name of the rule of a diagnostic, as a prompt shows it. -/
def ruleShown (d : Diagnostic) : String :=
  if d.rule.isTruthy then d.rule.display else "N/A"

/-- A diagnostic on a line of a prompt. -/
def issueLine (d : Diagnostic) : String :=
  "- Line " ++ toString d.line ++ ", Column " ++ toString d.column ++ " ["
    ++ d.severity.word.toUpper ++ "]: " ++ d.message ++ " (Rule: " ++ ruleShown d ++ ")"

/-- The diagnostics of a prompt. -/
def issueLines (ds : List Diagnostic) : String := "\n".intercalate (ds.map issueLine)

/-- What comes before the text. -/
def promptHead (language : String) : String :=
  "You are an expert code debugger. Analyze the following " ++ language ++ " code and its reported "
    ++ "issues. Provide a clear, concise explanation of the root cause of the error(s) and a "
    ++ "specific, actionable suggestion to fix it. If possible, provide the complete corrected "
    ++ "code.\n\nCode:\n```" ++ language ++ "\n"

/-- What comes after the diagnostics. -/
def promptTail : String :=
  "\n\nPlease provide your response in the following JSON format:\n\x7b\n"
    ++ "  \"explanation\": \"Detailed explanation of the problem.\",\n"
    ++ "  \"suggestion\": \"Specific steps to fix the problem.\",\n"
    ++ "  \"fixedCode\": \"If possible, the complete corrected code block. Otherwise, null.\"\n"
    ++ "\x7d\n"

/-- A prompt for a text and lines about it. -/
def promptOf (code language issues : String) : String :=
  promptHead language ++ code ++ "\n```\n\nReported Issues:\n" ++ issues ++ promptTail

/-- The prompt for a text and its diagnostics. -/
def prompt (redactor : Option Redactor) (code language : String) (ds : List Diagnostic) :
    Except RedactionError String :=
  match redactor with
  | none => .ok (promptOf code language (issueLines ds))
  | some r => do
    let cleanCode ← r.redact code
    let cleanIssues ← r.redact (issueLines ds)
    return promptOf cleanCode language cleanIssues

end Diagnosis.Explain
