import Diagnosis.Grammar.Symbol

/-!
# The lexicon

Which parts of the rules are tokens. Every fixed text and every part marked as a token becomes an
entry of the `Lexicon`; equal parts are one entry. What is left of a rule refers to tokens and
constructs only.

A construct that is nothing but a token which nothing else uses is that token, and the token takes
the name of the construct.
-/

namespace Diagnosis.Grammar

/-- A token. -/
structure Token where
  /-- Its name; of a fixed text the text itself. -/
  name : String
  /-- How it appears in trees. -/
  visibility : Visibility
  /-- Its characters. -/
  rule : Rule Symbol
  deriving Repr, Inhabited

/-- The tokens found so far. -/
structure Lexicon where
  /-- The tokens, in the order in which they were found. -/
  tokens : Array Token := #[]
  /-- How often each of them was found. -/
  uses : Array Nat := #[]
  /-- The construct that is being looked at. -/
  current : String := ""
  /-- The tokens without a name of their own that were found in it. -/
  unnamed : Nat := 0

namespace Lexicon

/-- The symbol of a token, which is entered if it is new. -/
def enter (rule : Rule Symbol) (text : Option String) : StateM Lexicon (Rule Symbol) :=
  modifyGet fun l =>
    match l.tokens.findIdx? (·.rule == rule) with
    | some i => (.ref (.token i), { l with uses := l.uses.modify i (· + 1) })
    | none =>
      let i := l.tokens.size
      match text with
      | some s =>
        (.ref (.token i),
          { l with tokens := l.tokens.push ⟨s, .anonymous, rule⟩, uses := l.uses.push 1 })
      | none =>
        let name := l.current ++ "_token" ++ toString (l.unnamed + 1)
        (.ref (.token i),
          { l with
            tokens := l.tokens.push ⟨name, .auxiliary, rule⟩
            uses := l.uses.push 1
            unnamed := l.unnamed + 1 })

/-- The text of a rule that is nothing but a text. -/
def textOf? : Rule Symbol → Option String
  | .text s => some s
  | _ => none

/-- The rule of a token: its part, with what the mark says beyond making it a token. -/
def tokenRule (mark : Mark) (part : Rule Symbol) : Rule Symbol :=
  let rest := { mark with isToken := false }
  if rest == {} then part else .marked rest part

mutual

/-- Enters the tokens of a rule and puts their symbols in their places. -/
def extract : Rule Symbol → StateM Lexicon (Rule Symbol)
  | .text s => enter (.text s) (some s)
  | .chars c => enter (.chars c) none
  | .ref s => return .ref s
  | .seq parts => return .seq (← extractAll parts)
  | .choice parts => return .choice (← extractAll parts)
  | .blank => return .blank
  | .many1 part => return .many1 (← extract part)
  | .marked mark part =>
    if mark.isToken then enter (tokenRule mark part) (textOf? part)
    else return .marked mark (← extract part)

/-- `extract` for each of several rules. -/
def extractAll : List (Rule Symbol) → StateM Lexicon (List (Rule Symbol))
  | [] => return []
  | r :: rs => return (← extract r) :: (← extractAll rs)

end

/-- `extract` for the rule of a named construct. -/
def extractFrom (name : String) (rule : Rule Symbol) : StateM Lexicon (Rule Symbol) := do
  modify fun l => { l with current := name, unnamed := 0 }
  extract rule

/-- The number of a token. -/
def indexOf? (l : Lexicon) (rule : Rule Symbol) : Option Nat :=
  l.tokens.findIdx? (·.rule == rule)

/-- The token that a construct is, if it is nothing else and nothing else uses it. The construct for
a whole text is never a token. -/
def soleToken? (l : Lexicon) (i : Nat) (c : Construct) : Option Nat :=
  match c.rule with
  | .ref (.token t) => if i > 0 && l.uses.getD t 0 == 1 then some t else none
  | _ => none

end Lexicon

/-- An external token: its name, and the token with the same characters, if there is one. -/
structure External where
  /-- The name. -/
  name : String
  /-- The token that has the same characters. -/
  internal : Option Nat
  deriving Repr, Inhabited

/-- A grammar whose rules refer to tokens and constructs. -/
structure Vocabulary where
  /-- The constructs. -/
  constructs : List Construct
  /-- The tokens. -/
  tokens : Array Token
  /-- The external tokens. -/
  externals : Array External
  /-- What separates tokens. -/
  separators : List (Rule Symbol)
  /-- Symbols that may stand between any two tokens. -/
  extras : List Symbol
  /-- What each number of a construct of the grammar stands for now. -/
  renamed : Nat → Symbol

/-- Gives tokens the names of the constructs that they are. -/
def adoptNames (l : Lexicon) (constructs : List Construct) : Array Token :=
  (constructs.zipIdx).foldl (fun tokens (c, i) =>
    match l.soleToken? i c with
    | some t =>
      tokens.modify t fun token => { token with name := c.name, visibility := c.visibility }
    | none => tokens) l.tokens

/-- What the number of a construct stands for when constructs that are tokens are left out. -/
def renameConstruct (l : Lexicon) (constructs : List Construct) (i : Nat) : Symbol :=
  match (constructs[i]?).bind (l.soleToken? i) with
  | some t => .token t
  | none =>
    let before := (constructs.take i).zipIdx.countP fun (c, j) => (l.soleToken? j c).isNone
    .construct before

/-- A symbol after the constructs are renumbered. -/
def Symbol.rename (f : Nat → Symbol) : Symbol → Symbol
  | construct i => f i
  | s => s

/-- Finds the tokens of a grammar. -/
def Vocabulary.of (g : Definition) : Vocabulary :=
  let work : StateM Lexicon (List Construct × List (Rule Symbol)) := do
    let constructs ← g.constructs.mapM fun c =>
      return { c with rule := ← Lexicon.extractFrom c.name c.rule }
    let externals ← g.externals.mapM fun e => Lexicon.extractFrom (externalName e) (g.resolve e)
    return (constructs, externals)
  let ((constructs, externals), lexicon) := work.run {}
  let table := (List.range constructs.length).map (renameConstruct lexicon constructs) |>.toArray
  let renamed := fun i => table.getD i .finish
  let tokens := adoptNames lexicon constructs
  let extras := g.extras.map g.resolve
  { constructs := (constructs.zipIdx.filter fun (c, i) => (lexicon.soleToken? i c).isNone).map
      fun (c, _) => { c with rule := c.rule.mapRefs (·.rename renamed) }
    tokens
    externals := (externals.zip g.externals |>.map fun (rule, e) =>
      match (rule.mapRefs (·.rename renamed) : Rule Symbol) with
      | .ref (.token t) => ⟨(tokens.getD t default).name, some t⟩
      | _ => ⟨externalName e, none⟩).toArray
    separators := extras.filter fun
      | .ref _ => false
      | _ => true
    extras := extras.filterMap fun
      | .ref s => some (s.rename renamed)
      | _ => none
    renamed }

end Diagnosis.Grammar
