import Diagnosis.Lint.Message
import Diagnosis.Syntax.Site

/-!
# Syntax errors

A text that does not parse gets one message, about the first fault of its tree. The message is the
most telling of four:

* a string that is left open on one of the fault's lines;
* the text ends too early;
* the token at the fault, if it is short enough to be quoted;
* that there is a token that does not belong.
-/

namespace Diagnosis.Lint

open Diagnosis.Text Diagnosis.Syntax

namespace SyntaxError

/-! ## Open quotes -/

/-- Looks for a quote that is left open. `i` is the index of the first of the characters and
`opened` the quote that is open there, with the index at which it was opened. A backslash inside a
literal skips the next character; a grave accent or a comment ends the search outside literals. -/
def openQuoteFrom (i : Nat) (opened : Option (Char × Nat)) : List Char → Option Nat
  | [] => opened.map (·.2)
  | c :: rest =>
    match opened with
    | some (quote, start) =>
      if c = '\\' then
        match rest with
        | [] => some start
        | _ :: rest => openQuoteFrom (i + 2) opened rest
      else openQuoteFrom (i + 1) (if c = quote then none else opened) rest
    | none =>
      if c = '\'' ∨ c = '"' then openQuoteFrom (i + 1) (some (c, i)) rest
      else if c = '\x60' ∨ (c = '/' ∧ rest.head? = some '/') then none
      else openQuoteFrom (i + 1) none rest

/-- The index of the quote that is left open at the end of a line. -/
def openQuote? (line : List Char) : Option Nat := openQuoteFrom 0 none line

/-! ## The message -/

/-- The message for a text that does not parse. -/
def fatal (description : String) (start : Place) : Message :=
  { rule := none, severity := .error, message := "Parsing error: " ++ description, start,
    fatal := true }

/-- Whether a node is one that a syntax error is about. -/
def isCulprit (t : Tree) : Bool := t.kind == Tree.errorKind || t.missing

/-- The node that begins first, of several the first listed. -/
def earliest? : List Tree → Option Tree
  | [] => none
  | t :: ts =>
    match earliest? ts with
    | none => some t
    | some u => if u.start < t.start then some u else some t

/-- The node that the message is about: the first fault, else the root. -/
def culprit (sites : List Site) (root : Tree) : Tree :=
  (earliest? ((sites.map (·.node)).filter isCulprit)).getD root

/-- The first quote that is left open on the rows from `first` to `last`. -/
def openString? (src : Source) (first last : Nat) : Option Place :=
  let rows := (List.range' first (last + 1 - first)).takeWhile (· < src.lines.length)
  rows.findSome? fun row =>
    (openQuote? (decode (src.line row))).map fun i => ⟨row + 1, i + 1⟩

/-- Whether only blanks follow the start of a fault. -/
def isAtEnd (src : Source) (t : Tree) : Bool :=
  (t.missing || (dropEndWhile isBlankByte src.data).length ≤ t.start)
    && (src.data.drop t.start).all isBlankByte

/-- The word at a fault: in its first token, or in all that follows a token that is missing. -/
def tokenAt? (src : Source) (t : Tree) : Option (List Char) :=
  let text := if t.missing then decode (src.data.drop t.start) else src.chars t.firstLeaf
  (words text).head?

/-- The longest token that a message quotes. -/
def tokenLimit : Nat := 20

/-- What is wrong at a fault. -/
def describe (src : Source) (t : Tree) : String :=
  if isAtEnd src t then "Unexpected end of input"
  else match tokenAt? src t with
    | some token =>
      if token.length ≤ tokenLimit then "Unexpected token " ++ String.ofList token
      else "Unexpected token"
    | none => "Unexpected token"

/-- The message for a tree with an error. -/
def message (src : Source) (sites : List Site) (root : Tree) : Message :=
  let t := culprit sites root
  let first := (src.startPoint t).row
  match openString? src first (max first (src.stopPoint t).row) with
  | some start => fatal "Unterminated string constant" start
  | none => fatal (describe src t) (src.place (src.startPoint t))

end SyntaxError

end Diagnosis.Lint
