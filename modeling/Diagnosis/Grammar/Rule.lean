import Diagnosis.Grammar.CharClass

/-!
# Grammar rules

A `Rule` says which sequences of symbols a construct consists of. Its leaves are fixed texts,
character classes and references to other constructs. Marks on a part of a rule say how the part
binds, under which name it appears in the tree, which role it has there, and whether it is one
token.

Rules are written with the functions of this module. The type of references is left open: a grammar
is written with names, and later work uses symbols.
-/

namespace Diagnosis.Grammar

/-- Which of two ways to group equals wins. -/
inductive Assoc where
  /-- The one that groups on the left. -/
  | left
  /-- The one that groups on the right. -/
  | right
  deriving Repr, BEq, DecidableEq, Inhabited

/-- How strongly a part binds. -/
inductive Precedence where
  /-- A rank; zero is neutral. -/
  | rank (n : Int)
  /-- A name, which the grammar puts in order with other names. -/
  | named (name : String)
  deriving Repr, BEq, DecidableEq, Inhabited

instance : Coe String Precedence := ⟨.named⟩
instance (n : Nat) : OfNat Precedence n := ⟨.rank n⟩

/-- Another name for a part. -/
structure Alias where
  /-- The name. -/
  name : String
  /-- Whether the part then counts as a construct. -/
  named : Bool
  deriving Repr, BEq, DecidableEq, Inhabited

/-- What is said of a part of a rule. -/
structure Mark where
  /-- How strongly it binds. -/
  precedence : Option Precedence := none
  /-- How equals group. -/
  assoc : Option Assoc := none
  /-- The weight of the part when several trees are possible. -/
  weight : Option Int := none
  /-- Another name for it. -/
  otherName : Option Alias := none
  /-- Its role in its parent. -/
  field : Option String := none
  /-- The name of the list of words that are reserved in it. -/
  reserved : Option String := none
  /-- Whether it is one token. -/
  isToken : Bool := false
  /-- Whether the token must follow without a blank. -/
  isImmediate : Bool := false
  deriving Repr, BEq, DecidableEq, Inhabited

/-- The sequences of symbols that a construct may consist of; `σ` is the type of references. -/
inductive Rule (σ : Type) where
  /-- A fixed text. -/
  | text (s : String)
  /-- One character of a class. -/
  | chars (c : CharClass)
  /-- A construct. -/
  | ref (s : σ)
  /-- All of the parts, one after another. -/
  | seq (parts : List (Rule σ))
  /-- One of the parts. -/
  | choice (parts : List (Rule σ))
  /-- Nothing. -/
  | blank
  /-- The part, once or several times. -/
  | many1 (part : Rule σ)
  /-- The part, of which something is said. -/
  | marked (mark : Mark) (part : Rule σ)
  deriving Repr, BEq, Inhabited

namespace Rule

variable {σ : Type}

instance : Coe String (Rule σ) := ⟨.text⟩
instance : Coe CharClass (Rule σ) := ⟨.chars⟩

/-- The part or nothing. -/
def optional (r : Rule σ) : Rule σ := .choice [r, .blank]

/-- The part any number of times. -/
def many (r : Rule σ) : Rule σ := .choice [.many1 r, .blank]

/-- The part once or several times, with commas between. -/
def commaList1 (r : Rule σ) : Rule σ := .seq [r, many (.seq [.text ",", r])]

/-- The part any number of times, with commas between. -/
def commaList (r : Rule σ) : Rule σ := optional (commaList1 r)

/-- The part up to `n` times. -/
def upTo (n : Nat) (r : Rule σ) : Rule σ :=
  match n with
  | 0 => .blank
  | n + 1 => optional (.seq [r, upTo n r])

/-- The part exactly `n` times. -/
def times (n : Nat) (r : Rule σ) : Rule σ := .seq (List.replicate n r)

/-- A part that binds as said. -/
def prec (p : Precedence) (r : Rule σ) : Rule σ := .marked { precedence := some p } r

/-- A part whose equals group on the left. -/
def left (p : Precedence) (r : Rule σ) : Rule σ :=
  .marked { precedence := some p, assoc := some .left } r

/-- A part whose equals group on the right. -/
def right (p : Precedence) (r : Rule σ) : Rule σ :=
  .marked { precedence := some p, assoc := some .right } r

/-- A part with a weight. -/
def weighted (n : Int) (r : Rule σ) : Rule σ := .marked { weight := some n } r

/-- One token. -/
def token (r : Rule σ) : Rule σ := .marked { isToken := true } r

/-- One token that must follow without a blank. -/
def immediate (r : Rule σ) : Rule σ := .marked { isToken := true, isImmediate := true } r

/-- A part that appears as a construct of another name. -/
def named (name : String) (r : Rule σ) : Rule σ := .marked { otherName := some ⟨name, true⟩ } r

/-- A part that appears as punctuation. -/
def anonymous (name : String) (r : Rule σ) : Rule σ := .marked { otherName := some ⟨name, false⟩ } r

/-- A part with a role. -/
def field (name : String) (r : Rule σ) : Rule σ := .marked { field := some name } r

/-- A part in which the words of a list are reserved. -/
def reserved (name : String) (r : Rule σ) : Rule σ := .marked { reserved := some name } r

/-- One of several rules. Choices among them are taken in, and equal ones are taken once. -/
def oneOf [BEq σ] (rules : List (Rule σ)) : Rule σ :=
  let flat := rules.flatMap fun
    | .choice parts => parts
    | r => [r]
  match flat.eraseDups with
  | [r] => r
  | rs => .choice rs

end Rule

/-- A mark whose gaps are filled from another mark. -/
def Mark.over (outer inner : Mark) : Mark :=
  { precedence := outer.precedence <|> inner.precedence
    assoc := outer.assoc <|> inner.assoc
    weight := outer.weight <|> inner.weight
    otherName := outer.otherName <|> inner.otherName
    field := outer.field <|> inner.field
    reserved := outer.reserved <|> inner.reserved
    isToken := outer.isToken || inner.isToken
    isImmediate := outer.isImmediate || inner.isImmediate }

/-- A marked rule; a mark directly below joins the mark, unless it makes a token. -/
def Rule.mark {σ : Type} (mark : Mark) : Rule σ → Rule σ
  | .marked inner part =>
    if inner.isToken then .marked mark (.marked inner part) else .marked (mark.over inner) part
  | part => .marked mark part

/-- A grammar whose constructs refer to each other by name. -/
structure Definition where
  /-- The constructs. The first one is a whole text; a name that begins with an underscore does not
  appear in trees. -/
  rules : List (String × Rule String)
  /-- The tokens that need more than the characters ahead to be recognised. -/
  externals : List (Rule String)
  /-- What may stand between any two tokens. -/
  extras : List (Rule String)
  /-- Lists of reserved words. The first list holds wherever no other is named. -/
  reserved : List (String × List String)
  /-- Constructs that stand for others and do not appear in trees. -/
  supertypes : List String
  /-- Constructs whose rules are put in place of every reference. -/
  inlined : List String
  /-- Chains of names of precedences and of constructs, the strongest first. -/
  precedences : List (List (String ⊕ String))
  /-- The token that words are, when they are no keywords. -/
  word : String

end Diagnosis.Grammar
