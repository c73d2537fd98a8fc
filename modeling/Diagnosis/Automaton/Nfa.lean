import Diagnosis.Automaton.Alphabet

/-!
# Token automata

All tokens of a language as one nondeterministic automaton. Each token has its own nodes; before a
token that need not follow immediately, separators may be read.

`Reach` is a set of nodes as one sees it from outside: the tokens that are complete there, and the
branches that lead on. Of several complete tokens one is preferred, and a branch may be worth less
than the token that is complete already; `prefersToken` and `prefersBranch` say which.
-/

namespace Diagnosis.Automaton

open Diagnosis.Grammar

/-- A node of the automaton. -/
inductive Node where
  /-- A token is complete. -/
  | complete (token : Nat) (rank : Int)
  /-- A letter of a set leads on. -/
  | letter (letters : BitSet) (target : Nat) (rank : Int) (isSeparator : Bool)
  /-- Each of the targets is as good as this node. -/
  | fork (targets : List Nat)
  deriving Inhabited, Repr

/-- The nodes while they are being made. -/
structure NodeBuilder where
  /-- The nodes. -/
  nodes : Array Node := #[]
  /-- The token of each node. -/
  owners : Array Nat := #[]
  /-- The token whose nodes are being made. -/
  token : Nat := 0
  /-- Whether separators are being made. -/
  isSeparator : Bool := false

/-- Adds a node. -/
def addNode (n : Node) : StateM NodeBuilder Nat :=
  modifyGet fun b =>
    (b.nodes.size, { b with nodes := b.nodes.push n, owners := b.owners.push b.token })

/-- Adds a node that a letter of a set leaves. -/
def addLetter (letters : BitSet) (rank : Int) (target : Nat) : StateM NodeBuilder Nat := do
  addNode (.letter letters target rank (← get).isSeparator)

/-- The rank that a mark gives to the part below it. -/
def rankBelow (rank : Int) (m : Mark) : Int :=
  match m.precedence with
  | some (.rank n) => n
  | _ => rank

mutual

/-- Adds nodes for a rule in front of the node `next` and gives the first of them. -/
def addRule (a : Alphabet) (rank : Int) (next : Nat) : Rule Symbol → StateM NodeBuilder Nat
  | .text s =>
    (textClasses s).foldrM (fun c next => addLetter (a.lettersOf c) rank next) next
  | .chars c => addLetter (a.lettersOf c) rank next
  | .ref _ => return next
  | .seq parts => addRow a rank next parts
  | .choice parts => do addNode (.fork (← addAlternatives a rank next parts))
  | .blank => return next
  | .many1 part => do
    let again ← addNode (.fork [])
    let first ← addRule a rank again part
    modify fun b => { b with nodes := b.nodes.set! again (.fork [first, next]) }
    return first
  | .marked m part => addRule a (rankBelow rank m) next part

/-- Adds nodes for a row of rules. -/
def addRow (a : Alphabet) (rank : Int) (next : Nat) : List (Rule Symbol) → StateM NodeBuilder Nat
  | [] => return next
  | r :: rs => do
    let rest ← addRow a rank next rs
    addRule a rank rest r

/-- Adds nodes for each of several rules. -/
def addAlternatives (a : Alphabet) (rank : Int) (next : Nat) :
    List (Rule Symbol) → StateM NodeBuilder (List Nat)
  | [] => return []
  | r :: rs => return (← addRule a rank next r) :: (← addAlternatives a rank next rs)

end

/-- The rank of a token as a whole. -/
def tokenRank : Rule Symbol → Int
  | .marked m _ => rankBelow 0 m
  | _ => 0

/-- How definite a token is: a fixed text is more definite than a pattern, and one that must follow
immediately is more definite than one that need not. -/
def definiteness : Rule Symbol → Nat
  | .text _ => 2
  | .marked m part => definiteness part + if m.isImmediate then 1 else 0
  | _ => 0

/-- Whether a token must follow without a separator. -/
def isImmediateToken : Rule Symbol → Bool
  | .marked m _ => m.isImmediate
  | _ => false

/-- Adds the nodes of a token and gives its first node. -/
def addToken (a : Alphabet) (separators : List (Rule Symbol)) (i : Nat) (rule : Rule Symbol) :
    StateM NodeBuilder Nat := do
  modify fun b => { b with token := i, isSeparator := false }
  let last ← addNode (.complete i (tokenRank rule))
  let first ← addRule a 0 last rule
  if isImmediateToken rule then return first
  else
    modify fun b => { b with isSeparator := true }
    let start ← addNode (.fork [])
    let before ← addAlternatives a 0 start separators
    modify fun b => { b with nodes := b.nodes.set! start (.fork (before ++ [first])) }
    return start

/-- All nodes that are as good as one of the given nodes, forks left out. -/
def unfork (nodes : Array Node) : Nat → List Nat → List Nat → List Nat → List Nat
  | 0, _, _, found => found
  | _ + 1, [], _, found => found
  | fuel + 1, i :: rest, seen, found =>
    if seen.contains i then unfork nodes fuel rest seen found
    else match nodes.getD i default with
      | .fork targets => unfork nodes fuel (targets ++ rest) (i :: seen) found
      | _ => unfork nodes fuel rest (i :: seen) (i :: found)

/-- The tokens of a language as one automaton. -/
structure Nfa where
  /-- The nodes. -/
  nodes : Array Node
  /-- The token of each node. -/
  owners : Array Nat
  /-- The first node of each token. -/
  starts : Array Nat
  /-- How definite each token is. -/
  definiteness : Array Nat
  /-- For each node the nodes that are as good, forks left out, in order. -/
  settled : Array (List Nat)
  deriving Inhabited

/-- The automaton of a language. -/
def Nfa.of (l : Language) (a : Alphabet) : Nfa :=
  let work : StateM NodeBuilder (List Nat) :=
    (l.tokens.toList.zipIdx).mapM fun (t, i) => addToken a l.separators i t.rule
  let (starts, b) := work.run {}
  { nodes := b.nodes
    owners := b.owners
    starts := starts.toArray
    definiteness := l.tokens.map fun t => Automaton.definiteness t.rule
    settled := (Array.range b.nodes.size).map fun i =>
      (unfork b.nodes (4 * b.nodes.size) [i] [] []).mergeSort (· ≤ ·) }

/-! ## Sets of nodes -/

/-- A branch that leads on from a set of nodes. -/
structure Branch where
  /-- The letters that take it. -/
  letters : BitSet
  /-- The nodes to which it leads, in order. -/
  targets : List Nat
  /-- Its rank. -/
  rank : Int
  /-- Whether it reads a separator. -/
  isSeparator : Bool
  deriving Inhabited, Repr

/-- A token that is complete. -/
structure Completion where
  /-- The token. -/
  token : Nat
  /-- Its rank. -/
  rank : Int
  deriving Inhabited, Repr, BEq

/-- A set of nodes as one sees it from outside. -/
structure Reach where
  /-- The tokens that are complete, in the order of their nodes. -/
  completions : List Completion
  /-- The branches that lead on; no letter takes two of them. -/
  branches : List Branch
  /-- Whether a separator may be read. -/
  hasSeparator : Bool
  deriving Inhabited, Repr

/-- Joins two sorted lists without repetitions. -/
def mergeDistinct : List Nat → List Nat → List Nat
  | [], ys => ys
  | xs, [] => xs
  | x :: xs, y :: ys =>
    if x < y then x :: mergeDistinct xs (y :: ys)
    else if y < x then y :: mergeDistinct (x :: xs) ys
    else x :: mergeDistinct xs ys

/-- Adds a way on to branches, which it splits where it takes some of their letters. -/
def splitBranches (letters : BitSet) (target : Nat) (rank : Int) (isSeparator : Bool) :
    List Branch → List Branch
  | [] => if letters.isEmpty then [] else [⟨letters, [target], rank, isSeparator⟩]
  | br :: rest =>
    let both := letters.inter br.letters
    if both.isEmpty then br :: splitBranches letters target rank isSeparator rest
    else
      let joined : Branch :=
        ⟨both, mergeDistinct [target] br.targets, max rank br.rank, isSeparator && br.isSeparator⟩
      let others := br.letters.diff both
      let tail := splitBranches (letters.diff both) target rank isSeparator rest
      if others.isEmpty then joined :: tail else joined :: { br with letters := others } :: tail

/-- Joins branches that differ in their letters alone. -/
def joinBranches : List Branch → List Branch
  | [] => []
  | br :: rest =>
    match joinBranches rest with
    | joined =>
      let same := fun (other : Branch) =>
        other.targets == br.targets && other.rank == br.rank && other.isSeparator == br.isSeparator
      match joined.find? same with
      | none => br :: joined
      | some other =>
        { br with letters := br.letters.union other.letters } :: joined.filter (!same ·)

namespace Nfa

variable (n : Nfa)

/-- The set of nodes that are as good as one of the given nodes. -/
def settle (nodes : List Nat) : List Nat :=
  nodes.foldl (fun acc i => mergeDistinct acc (n.settled.getD i [])) []

/-- A set of nodes as one sees it from outside. -/
def reach (nodes : List Nat) : Reach :=
  let settled := n.settle nodes
  let branches := settled.foldl (fun bs i =>
    match n.nodes.getD i default with
    | .letter letters target rank isSeparator => splitBranches letters target rank isSeparator bs
    | _ => bs) []
  { completions := settled.filterMap fun i =>
      match n.nodes.getD i default with
      | .complete token rank => some ⟨token, rank⟩
      | _ => none
    branches := joinBranches branches
    hasSeparator := settled.any fun i =>
      match n.nodes.getD i default with
      | .letter _ _ _ isSeparator => isSeparator
      | _ => false }

/-- The letters that a token may begin with, or a separator before it. -/
def startLetters (token : Nat) : BitSet :=
  (n.reach [n.starts.getD token 0]).branches.foldl (fun s br => s.union br.letters) {}

/-- The letters that a token itself may begin with. -/
def ownStartLetters (token : Nat) : BitSet :=
  (n.settle [n.starts.getD token 0]).foldl (fun s i =>
    match n.nodes.getD i default with
    | .letter letters _ _ false => s.union letters
    | _ => s) {}

/-- Whether the first of two complete tokens is preferred: by rank, then the more definite one, then
the one that comes first in the lexicon. -/
def prefersToken (a b : Completion) : Bool :=
  if a.rank != b.rank then a.rank > b.rank
  else
    let x := n.definiteness.getD a.token 0
    let y := n.definiteness.getD b.token 0
    if x != y then x > y else a.token < b.token

/-- Whether a branch is worth more than the token that is complete already. -/
def prefersBranch (br : Branch) (done : Completion) (hasSeparator : Bool) : Bool :=
  if br.rank < done.rank then false
  else if br.rank == done.rank then
    !br.isSeparator
      && !(hasSeparator && !br.targets.any fun i => n.owners.getD i 0 == done.token)
  else true

/-- The preferred one of several complete tokens. -/
def best? (completions : List Completion) : Option Completion :=
  completions.foldl (fun best c =>
    match best with
    | none => some c
    | some b => if n.prefersToken b c then some b else some c) none

end Nfa

end Diagnosis.Automaton
