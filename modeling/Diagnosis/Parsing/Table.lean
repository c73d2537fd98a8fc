import Diagnosis.Automaton.LexGroup
import Diagnosis.Automaton.Dfa

/-!
# Parse tables

A `Table` holds all that a parser needs to know of a language: the states of its automaton, the
recognisers of its tokens, and how each symbol appears in trees. `Table.of` makes it from a grammar.
-/

namespace Diagnosis.Parsing

open Diagnosis.Grammar Diagnosis.Automaton

/-- How a symbol appears in trees. -/
structure Face where
  /-- Its name. -/
  name : String
  /-- Whether it appears at all. -/
  isVisible : Bool
  /-- Whether it is a construct of the language; punctuation is not. -/
  isNamed : Bool
  deriving Inhabited, Repr

/-- The face of a symbol with a name of its own. -/
def Face.ofAlias (a : Alias) : Face := ⟨a.name, true, a.named⟩

/-- The face of a symbol by its visibility. -/
def Face.ofVisibility (name : String) : Visibility → Face
  | .named => ⟨name, true, true⟩
  | .anonymous => ⟨name, true, false⟩
  | _ => ⟨name, false, false⟩

/-- What a state looks for. -/
structure LexMode where
  /-- The lexical group. -/
  group : Nat
  /-- The external tokens. -/
  externals : BitSet
  /-- The reserved tokens. -/
  reserved : BitSet
  deriving BEq, Inhabited

/-- What a parser knows of a language. -/
structure Table where
  /-- The states. -/
  states : Array MergedState
  /-- What each state looks for. -/
  modes : Array LexMode
  /-- The recognisers of tokens. -/
  dfa : Dfa
  /-- The first state of the recogniser of each lexical group. -/
  groupStarts : Array Nat
  /-- The first state of the recogniser of keywords. -/
  keywordStart : Nat
  /-- The token that words are. -/
  word : Nat
  /-- The number of tokens; external tokens come after them. -/
  tokens : Nat
  /-- The terminal that stands for the end of the text. -/
  finish : Nat
  /-- The shapes of productions. -/
  shapes : Array Shape
  /-- The faces of terminals. -/
  terminalFaces : Array Face
  /-- The faces of constructs. -/
  constructFaces : Array Face
  /-- The terminals other than the end, in the order in which they are tried at a fault. -/
  trialOrder : List Nat
  /-- The place of each terminal in the order of symbols. -/
  places : Array Nat
  deriving Inhabited

namespace Table

/-- The faces of the terminals of a language. -/
def facesOfTerminals (l : Language) : Array Face :=
  let own := fun (s : Symbol) (otherwise : Face) =>
    ((l.ownAliases.lookup s).map Face.ofAlias).getD otherwise
  let tokens := l.tokens.zipIdx.map fun (t, i) =>
    own (.token i) (.ofVisibility t.name t.visibility)
  let externals := l.externals.zipIdx.map fun (e, i) =>
    own (.external i) (.ofVisibility e.name (if isHiddenName e.name then .hidden else .named))
  (tokens ++ externals).push ⟨"end", false, true⟩

/-- The faces of the constructs of a language. -/
def facesOfConstructs (l : Language) : Array Face :=
  l.phrases.zipIdx.map fun (p, v) =>
    ((l.ownAliases.lookup (.construct v)).map Face.ofAlias).getD
      (.ofVisibility p.name p.visibility)

/-- The external tokens that a state expects, under either of their numbers. -/
def externalsIn (l : Language) (s : MergedState) : BitSet :=
  BitSet.ofList ((l.externals.toList.zipIdx.filter fun (e, i) =>
    s.expects (l.tokens.size + i) || (e.internal.map s.expects).getD false).map (·.2))

/-- The order in which terminals are tried: the word token, the other tokens, and external tokens
that are no tokens otherwise. -/
def trialOrderOf (f : Facts) : List Nat :=
  f.language.word :: (List.range f.tokens).filter (· != f.language.word) ++ f.ownExternals

/-- The place of each terminal in the order of symbols; the end of the text comes first. -/
def placesOf (terminals finish : Nat) (order : List Nat) : Array Nat :=
  ((finish :: order).zipIdx).foldl (fun places (t, i) => places.set! t i)
    (Array.replicate terminals 0)

/-- The table of a language. -/
def ofLanguage (l : Language) : Table :=
  let b := Blueprint.of l
  let alphabet := Alphabet.of l
  let nfa := Nfa.of l alphabet
  let states := b.states l.tokens.size
  let f := Facts.of l b.edges alphabet nfa states
  let states := states.modify 0 f.faultState
  let groups := ((f.merging states).groups.bring 0 0).bring 1 1
  let merged := passOverClosings l b.table.shapes (mergeStates l states groups)
  let (lexGroups, groupOf) := f.lexGroupsOf merged (reachableStates merged)
  let keys := lexGroups.toList.map fun g => startKey nfa g.tokens.toList g.mayEnd
  let (dfa, starts) := Dfa.ofStarts nfa alphabet (keys ++ [startKey nfa f.keywords.toList false])
  let order := trialOrderOf f
  { states := merged
    modes := merged.zipIdx.map fun (s, i) => ⟨groupOf.getD i 0, externalsIn l s, s.reserved⟩
    dfa
    groupStarts := starts.dropLast.toArray
    keywordStart := starts.getLast?.getD 0
    word := l.word
    tokens := l.tokens.size
    finish := finishIndex l
    shapes := b.table.shapes
    terminalFaces := facesOfTerminals l
    constructFaces := facesOfConstructs l
    trialOrder := order
    places := placesOf (terminalCount l) (finishIndex l) order }

/-- The table of the language of a grammar. -/
def of (g : Definition) : Table := ofLanguage (Language.of g)

variable (t : Table)

/-- What a state does at a terminal. -/
def actions (state terminal : Nat) : List Action :=
  match t.states[state]? with
  | some s => s.actions.getD terminal []
  | none => []

/-- The state to which a construct leads, or zero. -/
def goto (state construct : Nat) : Nat :=
  match t.states[state]? with
  | some s => s.gotos.getD construct 0
  | none => 0

/-- The state to which a terminal leads when it is taken, or zero. -/
def shiftTarget (state terminal : Nat) : Nat :=
  match (t.actions state terminal).getLast? with
  | some .shiftExtra => state
  | some (.shift s _) => s
  | _ => 0

/-- What a state looks for. -/
def mode (state : Nat) : LexMode := t.modes.getD state default

/-- The first state of the recogniser for what a state looks for. -/
def lexStart (state : Nat) : Nat := t.groupStarts.getD (t.mode state).group 0

/-- Whether a terminal is reserved in a state. -/
def isReserved (state terminal : Nat) : Bool := (t.mode state).reserved.contains terminal

end Table

end Diagnosis.Parsing
