import Diagnosis.Lint.Subject

/-!
# Quotes

The rule `quotes` wants strings to stand between quotes of one kind. `requote` rewrites a literal
for another quote: a quote that no longer needs an escape loses it, one that now needs an escape
gets it, and every other escape stays.
-/

namespace Diagnosis.Lint

open Diagnosis.Text Diagnosis.Syntax

/-- The quotes of a string literal. -/
inductive QuoteStyle where
  /-- The apostrophe. -/
  | single
  /-- The double quote. -/
  | double
  /-- The grave accent, which makes a template. -/
  | backtick
  deriving Repr, DecidableEq

namespace QuoteStyle

/-- The quote itself. -/
def char : QuoteStyle → Char
  | single => '\''
  | double => '"'
  | backtick => '\x60'

/-- The word for a style in settings. -/
def word : QuoteStyle → String
  | single => "single"
  | double => "double"
  | backtick => "backtick"

/-- The name of a style in messages. -/
def name : QuoteStyle → String
  | single => "singlequote"
  | double => "doublequote"
  | backtick => "backtick"

end QuoteStyle

/-- The options of the rule. -/
structure QuoteOptions where
  /-- The quote that is wanted. -/
  style : QuoteStyle
  /-- Whether another quote may avoid an escape. -/
  avoidEscape : Bool
  /-- Whether templates without substitutions are let pass. -/
  allowTemplates : Bool
  deriving Repr, DecidableEq

namespace Quotes

/-- Whether a character must be escaped between the given quotes, in front of the given rest. -/
def needsEscape (quote c : Char) (rest : List Char) : Bool :=
  c == quote || (quote == '\x60' && c == '$' && rest.head? == some '{')

/-- The inside of a literal whose quotes change from `old` to `quote`. -/
def requoteBody (old quote : Char) : List Char → List Char
  | [] => []
  | '\\' :: c :: rest =>
    (if c == old && c != quote then [c] else ['\\', c]) ++ requoteBody old quote rest
  | c :: rest =>
    (if needsEscape quote c rest then ['\\', c] else [c]) ++ requoteBody old quote rest

/-- The literal between other quotes. -/
def requote (quote : Char) (literal : List Char) : List Char :=
  match literal with
  | [] => []
  | old :: rest => [quote] ++ requoteBody old quote rest.dropLast ++ [quote]

/-- Whether a template is nothing but a string on one line. -/
def isPlainTemplate (src : Source) (s : Site) : Bool :=
  !s.isBelow "call_expression"
    && !s.node.namedChildren.any (·.kind == "template_substitution")
    && (src.startPoint s.node).row == (src.stopPoint s.node).row

/-- Whether the rule looks at a site. -/
def concerns (src : Source) (o : QuoteOptions) (s : Site) : Bool :=
  if s.kind == "string" then !s.isBelow "jsx_attribute"
  else s.kind == "template_string" && o.style != .backtick && !o.allowTemplates
    && isPlainTemplate src s

/-- Whether a literal may keep the quotes it has. -/
def isFine (o : QuoteOptions) (literal : List Char) : Bool :=
  literal.length < 2 || literal.head? == some o.style.char
    || (o.avoidEscape && literal.tail.dropLast.contains o.style.char)

/-- The findings of the rule. -/
def check (o : QuoteOptions) (subject : Subject) : List Finding :=
  (subject.sites.filter (concerns subject.source o)).filterMap fun s =>
    let literal := subject.source.chars s.node
    if isFine o literal then none
    else some { subject.findingAt s!"Strings must use {o.style.name}." s.node with
      fix := some ⟨s.node.start, s.node.stop, encode (requote o.style.char literal)⟩ }

end Quotes

end Diagnosis.Lint
