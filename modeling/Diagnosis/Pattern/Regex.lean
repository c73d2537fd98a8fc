import Diagnosis.Text.Blank
import Diagnosis.Text.Case
import Diagnosis.Text.Word

/-!
# Search patterns

A `Regex` describes stretches of text. Where it matches in several ways, they have an order: of a
choice the first alternative comes first, and a repetition goes on as long as it can (or, if it is
lazy, stops as soon as it can). `Regex.ends` lists all places where a match from a given place may
end, in that order; `Regex.matchAt?` takes the first.

`Regex.pieces` cuts a text into its matches and the characters between them, from left to right. An
empty match is taken once at a place, and the next match from there is not empty.
-/

namespace Diagnosis.Pattern

open Diagnosis.Text

/-- A test of a character. -/
inductive CharTest where
  /-- The characters from one up to another. -/
  | range (first last : Char)
  /-- The blanks. -/
  | blank
  /-- The decimal digits of all scripts. -/
  | digit
  /-- Letters, numbers and the underscore. -/
  | word
  /-- The characters of either test. -/
  | either (s t : CharTest)
  /-- The characters that fail a test. -/
  | except (t : CharTest)
  deriving Repr, Inhabited

namespace CharTest

/-- The test for a single character. -/
def only (c : Char) : CharTest := .range c c

/-- The test for the characters of a text, of which there is at least one. -/
def anyOf (c : Char) (cs : List Char) : CharTest :=
  cs.foldl (fun t x => .either t (only x)) (only c)

/-- Whether a character lies in a range. -/
def isBetween (first last c : Char) : Bool := first ≤ c && c ≤ last

/-- Whether a character differs in case alone from one of a range. -/
def isBetweenFolded (first last c : Char) : Bool :=
  isBetween first last c
    || (List.range (last.toNat + 1 - first.toNat)).any fun i =>
      foldChar (Char.ofNat (first.toNat + i)) == foldChar c

/-- Whether a character passes a test. -/
def accepts (ignoreCase : Bool) : CharTest → Char → Bool
  | range a b, c => if ignoreCase then isBetweenFolded a b c else isBetween a b c
  | blank, c => isBlank c
  | digit, c => isDigit c
  | word, c => isWordChar c
  | either s t, c => accepts ignoreCase s c || accepts ignoreCase t c
  | except t, c => !accepts ignoreCase t c

end CharTest

/-- A place in a text. -/
structure Spot where
  /-- The number of characters before it. -/
  offset : Nat
  /-- The character before it. -/
  before : Option Char
  /-- The text after it. -/
  rest : List Char
  deriving Inhabited, Repr

namespace Spot

/-- The start of a text. -/
def start (s : List Char) : Spot := ⟨0, none, s⟩

/-- The place after the next character, if there is one. -/
def next (s : Spot) : Spot :=
  match s.rest with
  | [] => s
  | c :: rest => ⟨s.offset + 1, some c, rest⟩

/-- Whether a word begins or ends here. -/
def isWordEdge (s : Spot) : Bool :=
  let isWord := fun (c : Option Char) => (c.map isWordChar).getD false
  isWord s.before != isWord s.rest.head?

end Spot

/-- A description of stretches of text. -/
inductive Regex where
  /-- Nothing. -/
  | empty
  /-- One character. -/
  | one (t : CharTest) (ignoreCase : Bool)
  /-- The start of the text. -/
  | textStart
  /-- The end of the text; if `loose`, also before a last line feed. -/
  | textStop (loose : Bool)
  /-- A place where a word begins or ends, or where none does. -/
  | wordEdge (isEdge : Bool)
  /-- One after the other. -/
  | both (r s : Regex)
  /-- One or the other. -/
  | either (r s : Regex)
  /-- Again and again, at least `least` times and at most `most` times. -/
  | many (r : Regex) (least : Nat) (most : Option Nat) (isLazy : Bool)
  deriving Repr, Inhabited

namespace Regex

/-- A fixed text, in any case if `ignoreCase`. -/
def textIn (ignoreCase : Bool) (s : String) : Regex :=
  s.toList.foldr (fun c r => .both (.one (.only c) ignoreCase) r) .empty

/-- A fixed text. -/
def text (s : String) : Regex := textIn false s

/-- One of several regular expressions. -/
def oneOf : List Regex → Regex
  | [] => .empty
  | [r] => r
  | r :: rs => .either r (oneOf rs)

/-- Several regular expressions in a row. -/
def row : List Regex → Regex
  | [] => .empty
  | [r] => r
  | r :: rs => .both r (row rs)

/-- As many characters of a kind as there are, at least `least`. -/
def run (t : CharTest) (least : Nat) : Regex := .many (.one t false) least none false

/-- Exactly `n` characters of a kind. -/
def exactly (t : CharTest) (n : Nat) : Regex := .many (.one t false) n (some n) false

/-- A regular expression or nothing. -/
def optional (r : Regex) : Regex := .many r 0 (some 1) false

/-- Where up to `room` more repetitions may end. One that is empty is not repeated. -/
def optionalEnds (f : Spot → List Spot) (isLazy : Bool) : Nat → Spot → List Spot
  | 0, s => [s]
  | room + 1, s =>
    let more := ((f s).filter (s.offset < ·.offset)).flatMap (optionalEnds f isLazy room)
    if isLazy then s :: more else more ++ [s]

/-- Where `least` repetitions, followed by optional ones, may end. -/
def repeatedEnds (f : Spot → List Spot) (after : Spot → List Spot) : Nat → Spot → List Spot
  | 0, s => after s
  | least + 1, s => (f s).flatMap (repeatedEnds f after least)

/-- How many optional repetitions are worth trying before a text. -/
def room (least : Nat) (most : Option Nat) (s : Spot) : Nat :=
  match most with
  | none => s.rest.length
  | some n => min (n - least) s.rest.length

/-- All places where a match from a place may end, the preferred one first. -/
def ends : Regex → Spot → List Spot
  | empty, s => [s]
  | one t ignoreCase, s =>
    match s.rest with
    | c :: _ => if t.accepts ignoreCase c then [s.next] else []
    | [] => []
  | textStart, s => if s.offset = 0 then [s] else []
  | textStop loose, s => if s.rest = [] ∨ (loose ∧ s.rest = ['\n']) then [s] else []
  | wordEdge isEdge, s => if s.isWordEdge = isEdge then [s] else []
  | both r t, s => (ends r s).flatMap (ends t)
  | either r t, s => ends r s ++ ends t s
  | many r least most isLazy, s =>
    repeatedEnds (ends r) (fun s => optionalEnds (ends r) isLazy (room least most s) s) least s

/-- The place where the preferred match from a place ends. -/
def matchAt? (r : Regex) (mayBeEmpty : Bool) (s : Spot) : Option Spot :=
  (r.ends s).find? fun e => mayBeEmpty || s.offset < e.offset

/-- A piece of a text. -/
inductive Piece where
  /-- A character between matches. -/
  | kept (c : Char)
  /-- A match. -/
  | found (s : List Char)
  deriving Repr, DecidableEq

/-- The pieces of the text after a place. -/
def piecesFrom (r : Regex) : Nat → Bool → Spot → List Piece
  | 0, _, s => s.rest.map .kept
  | fuel + 1, mayBeEmpty, s =>
    match r.matchAt? mayBeEmpty s with
    | some e =>
      .found (s.rest.take (e.offset - s.offset)) :: piecesFrom r fuel (s.offset < e.offset) e
    | none =>
      match s.rest with
      | [] => []
      | c :: _ => .kept c :: piecesFrom r fuel true s.next

/-- The pieces of a text. Each step reads a character or is followed by one that does. -/
def pieces (r : Regex) (s : List Char) : List Piece :=
  r.piecesFrom (2 * s.length + 2) true (Spot.start s)

/-- Whether a text has a match. -/
def occursIn (r : Regex) (s : List Char) : Bool :=
  (r.pieces s).any fun
    | .found _ => true
    | .kept _ => false

/-- A text with something else in place of each match. -/
def replace (r : Regex) (f : List Char → List Char) (s : List Char) : List Char :=
  (r.pieces s).flatMap fun
    | .found m => f m
    | .kept c => [c]

end Regex

end Diagnosis.Pattern
