import Diagnosis.Grammar.Rule

/-!
# The tokens of JavaScript

The tokens that are more than a fixed text: names, numbers, comments and the pieces of strings,
templates, regular expressions and markup. Also the blanks that separate tokens.
-/

namespace Diagnosis.JavaScript.Token

open Diagnosis.Grammar
open Diagnosis.Grammar.Rule
open Diagnosis.Grammar.CharClass

/-- A rule for tokens, which refers to no construct. -/
abbrev Pattern := Rule String

/-! ## Characters -/

/-- The ASCII letters. -/
def letter : CharClass := range 'a' 'z' ++ range 'A' 'Z'

/-- The octal digits. -/
def octalDigit : CharClass := range '0' '7'

/-- The characters that separate tokens. -/
def separator : CharClass :=
  whiteSpace ++ spaceSeparator ++ anyOf "\uFEFF\u2028\u2029\u2060\u200B"

/-- The characters that no name holds: controls, blanks and punctuation. -/
def notInNames : CharClass :=
  ofRanges [(0, 0x1F)] ++ whiteSpace ++ spaceSeparator
    ++ anyOf ":;`\"'@#.,|^&<=>+-*/\\%?!~()[]\x7b\x7d\uFEFF\u2060\u200B\u2028\u2029"

/-! ## Names -/

/-- A character by its number. -/
def unicodeEscape : Pattern :=
  choice [seq ["u", times 4 hexDigit], seq ["u\x7b", many1 hexDigit, "\x7d"]]

/-- The first character of a name. -/
def nameStart : Pattern :=
  choice [(notInNames ++ digit).complement, seq ["\\", unicodeEscape]]

/-- A further character of a name. -/
def namePart : Pattern := choice [notInNames.complement, seq ["\\", unicodeEscape]]

/-- A name. -/
def identifier : Pattern := token (seq [nameStart, many namePart])

/-- A name that is private to a class. -/
def privateIdentifier : Pattern := token (seq ["#", nameStart, many namePart])

/-- The words that begin a static method that is asked for like a property, on their own line. -/
def staticGet : Pattern := token (seq ["static", many1 whiteSpace, "get", many whiteSpace, "\n"])

/-! ## Numbers -/

/-- Digits of a class, between which single underscores may stand. -/
def digitsOf (c : CharClass) : Pattern := seq [c, many (seq [optional "_", c])]

/-- Decimal digits. -/
def decimalDigits : Pattern := digitsOf digit

/-- A number in base sixteen. -/
def hexLiteral : Pattern := seq [choice ["0x", "0X"], digitsOf hexDigit]

/-- A number in base two. -/
def binaryLiteral : Pattern := seq [choice ["0b", "0B"], digitsOf (range '0' '1')]

/-- A number in base eight. -/
def octalLiteral : Pattern := seq [choice ["0o", "0O"], digitsOf octalDigit]

/-- A power of ten. -/
def exponent : Pattern :=
  seq [choice ["e", "E"], seq [optional (choice ["-", "+"]), decimalDigits]]

/-- The digits before a point. -/
def wholePart : Pattern :=
  choice ["0", seq [optional "0", range '1' '9', optional (seq [optional "_", decimalDigits])]]

/-- A number in base ten. -/
def decimalLiteral : Pattern :=
  choice [seq [wholePart, ".", optional decimalDigits, optional exponent],
    seq [".", decimalDigits, optional exponent], seq [wholePart, exponent], decimalDigits]

/-- A whole number of any size. -/
def bigLiteral : Pattern :=
  seq [choice [hexLiteral, binaryLiteral, octalLiteral, decimalDigits], "n"]

/-- A number. -/
def number : Pattern :=
  token (choice [hexLiteral, decimalLiteral, binaryLiteral, octalLiteral, bigLiteral])

/-! ## Comments, strings and regular expressions -/

/-- The first line of a script for a command interpreter. -/
def hashBang : Pattern := token (seq ["#!", many notLineFeed])

/-- A comment. -/
def comment : Pattern :=
  token (choice [seq ["//", many (noneOf "\r\n\u2028\u2029")],
    seq ["/*", many (noneOf "*"), many1 "*",
      many (seq [noneOf "/*", many (noneOf "*"), many1 "*"]), "/"]])

/-- A stretch of a string without escapes. -/
def stringFragment (quote : String) : Pattern :=
  immediate (prec 1 (many1 (noneOf (quote ++ "\\\r\n"))))

/-- An escape in a string or a template. -/
def escapeSequence : Pattern :=
  immediate (seq ["\\",
    choice [(anyOf "xu" ++ octalDigit).complement, seq [octalDigit, upTo 2 octalDigit],
      seq ["x", times 2 hexDigit], unicodeEscape, seq [anyOf "\r?", anyOf "\n\u2028\u2029"]]])

/-- The inside of a regular expression. -/
def regexPattern : Pattern :=
  immediate (prec (.rank (-1)) (many1 (choice [
    seq ["[", many (choice [seq ["\\", notLineFeed], noneOf "]\n\\"]), "]"],
    seq ["\\", notLineFeed], noneOf "/\\[\n"])))

/-- The flags of a regular expression. -/
def regexFlags : Pattern := immediate (many1 (range 'a' 'z'))

/-! ## Markup -/

/-- A character of markup by its name or number. -/
def characterReference : Pattern :=
  token (seq ["&",
    choice [
      seq ["#", choice [seq [anyOf "xX", hexDigit, upTo 5 hexDigit], seq [digit, upTo 4 digit]]],
      seq [letter, upTo 29 letter]], ";"])

/-- A name with hyphens. -/
def markupIdentifier : Pattern :=
  token (seq [letter ++ anyOf "_$", many (letter ++ digit ++ anyOf "_$"), "-",
    many (letter ++ digit ++ anyOf "_$-")])

/-- A stretch of a markup string without character references. -/
def markupFragment (quote : String) : Pattern :=
  immediate (prec 1 (many1
    (choice [noneOf (quote ++ "&"), seq ["&", (letter ++ anyOf "#").complement]])))

end Diagnosis.JavaScript.Token
