import Diagnosis.Text.Search

/-!
# Explanations

What well-known diagnostics mean and what to do about them. A diagnostic is looked up by the name of
its rule, and else by the words of its message; the first entry that fits counts.
-/

namespace Diagnosis.Explain

open Diagnosis.Text

/-- What a diagnostic means. -/
structure Explanation where
  /-- What is wrong. -/
  explanation : String
  /-- What to do about it. -/
  suggestion : String
  deriving Repr, DecidableEq, Inhabited

/-- The explanation of a diagnostic that nothing is known of. -/
def generic : Explanation :=
  ⟨"No specific explanation available for this error.",
    "Review the code at the reported line and column for syntax errors or logical "
    ++ "inconsistencies. Search for the error message or rule ID online."⟩

/-- The explanations by the names of rules or words of messages. -/
def table : List (String × Explanation) :=
  [ ("Unterminated string constant",
      ⟨"A string literal was opened but never closed with its matching quote, for example "
        ++ "`\"Hello` without the closing `\"`.",
        "Make sure every string starts and ends with the same quote character."⟩),
    ("Unexpected token",
      ⟨"The parser found a character or symbol where it did not expect one, usually "
        ++ "because of a syntax error or a typo.",
        "Look for missing or extra punctuation (parentheses, brackets, braces, semicolons), "
        ++ "misspelled keywords, or misplaced operators around the reported location."⟩),
    ("Missing semicolon",
      ⟨"A statement ends without the semicolon (`;`) that terminates it.",
        "Add a semicolon at the end of the reported line."⟩),
    ("Unexpected end of input",
      ⟨"The code ended while a block, call or literal was still open, usually a function, "
        ++ "loop or `if` missing its closing `\x7d`.",
        "Check for unclosed `\x7b\x7d`, `()` or `[]` and close every block you open."⟩),
    ("no-undef",
      ⟨"A variable or function is used but never declared or imported in the current "
        ++ "scope, so the linter cannot find its definition.",
        "Declare it with `const`, `let` or `var` before use, import it, or fix a typo in "
        ++ "the name. Environment globals such as `window` need the right environment "
        ++ "settings."⟩),
    ("no-unused-vars",
      ⟨"A variable or import is declared but never used. Dead declarations can hide bugs "
        ++ "and make code harder to read.",
        "Remove the declaration or use it where it was meant to be used."⟩),
    ("semi",
      ⟨"Statements must end with a semicolon so the code does not depend on automatic "
        ++ "semicolon insertion.",
        "Add a semicolon (`;`) at the end of the reported statement."⟩),
    ("indent",
      ⟨"The line is not indented with the configured style. Inconsistent indentation makes "
        ++ "the structure of the code hard to follow.",
        "Re-indent the line to the expected width; most editors can do this automatically."⟩),
    ("quotes",
      ⟨"String literals must consistently use the configured quote character.",
        "Switch the string to the configured quotes (single quotes by default)."⟩),
    ("no-console",
      ⟨"`console` calls are debugging output and are usually not meant to ship.",
        "Remove the call or route the message through a proper logger."⟩),
    ("no-trailing-spaces",
      ⟨"The line ends with whitespace that serves no purpose.",
        "Remove the spaces or tabs at the end of the line."⟩),
    ("eol-last",
      ⟨"The file must end with a newline character.",
        "Add an empty line at the very end of the file."⟩),
    ("was not declared in this scope",
      ⟨"The compiler found a name that has no declaration visible at this point, often a "
        ++ "missing `#include`, a typo, or a missing `std::` prefix.",
        "Declare the name, include the header that declares it, or qualify it with its "
        ++ "namespace."⟩),
    ("expected ';'",
      ⟨"The compiler expected a semicolon to end the previous statement or declaration.",
        "Add the missing `;` at the end of the statement before the reported location."⟩)]

/-- The explanation of a diagnostic by a table: by the rule, else by the message. -/
def lookupIn (table : List (String × Explanation)) (rule : Option String) (message : String) :
    Explanation :=
  match rule.bind (fun r => table.lookup r) with
  | some e => e
  | none =>
    match table.find? fun entry => stringOccurs entry.1 message with
    | some entry => entry.2
    | none => generic

/-- The explanation of a diagnostic. -/
def lookup (rule : Option String) (message : String) : Explanation := lookupIn table rule message

end Diagnosis.Explain
