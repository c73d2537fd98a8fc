import Diagnosis.Automaton.Nfa
import Diagnosis.Automaton.Lookahead

/-!
# Contests between tokens

What can happen when two tokens are possible at once. `Contests.of` lets each pair of tokens read
the same letters side by side and notes, for each of the two, how it may win or differ. Three
questions are answered from that:

* which tokens may be recognised together without changing what is recognised;
* which fixed words are words of the language's word token, so that they need not be told apart
  letter by letter (`keywordsOf`);
* which tokens can be recognised at a fault, where anything may come.
-/

namespace Diagnosis.Automaton

open Diagnosis.Grammar

/-- How one token may fare beside another. -/
structure Fate where
  /-- It is complete, and the other one is not worth going on with. -/
  isPrefix : Bool := false
  /-- It goes on where the other one is complete. -/
  continues : Bool := false
  /-- It goes on, with a letter that may follow the other one. -/
  continuesValidly : Bool := false
  /-- It is complete where a separator could still be read. -/
  beforeSeparator : Bool := false
  /-- It is preferred where both are complete. -/
  sameText : Bool := false
  /-- It can have a text that the other one cannot have. -/
  otherText : Bool := false
  deriving BEq, DecidableEq, Inhabited, Repr

/-- Both of two fates may happen. -/
def Fate.join (a b : Fate) : Fate :=
  { isPrefix := a.isPrefix || b.isPrefix
    continues := a.continues || b.continues
    continuesValidly := a.continuesValidly || b.continuesValidly
    beforeSeparator := a.beforeSeparator || b.beforeSeparator
    sameText := a.sameText || b.sameText
    otherText := a.otherText || b.otherText }

/-- The fates of both tokens of a pair. -/
structure Pair where
  /-- The fate of the first token. -/
  left : Fate := {}
  /-- The fate of the second token. -/
  right : Fate := {}
  deriving Inhabited

/-- Notes a fate of one of the tokens `i` and `j`. -/
def Pair.note (p : Pair) (i token : Nat) (f : Fate) : Pair :=
  if token = i then { p with left := p.left.join f } else { p with right := p.right.join f }

/-- What the complete tokens of a set of nodes mean for the pair: the preferred one, and the fates.
Where a separator may still be read, no token counts as complete yet. -/
def contestCompletions (n : Nfa) (i : Nat) (hasSeparator : Bool) :
    List Completion → Option Completion → Pair → Option Completion × Pair
  | [], done, p => (done, p)
  | c :: rest, done, p =>
    if hasSeparator then (done, p.note i c.token { beforeSeparator := true })
    else match done with
      | none => contestCompletions n i hasSeparator rest (some c) p
      | some d =>
        if c.token = d.token then contestCompletions n i hasSeparator rest done p
        else
          let best := if n.prefersToken d c then d else c
          contestCompletions n i hasSeparator rest (some best)
            (p.note i best.token { sameText := true })

/-- Whether the nodes of a branch belong to the other token only. -/
def isForeign (n : Nfa) (done : Completion) (br : Branch) : Bool :=
  !br.targets.isEmpty && !br.targets.any fun k => n.owners.getD k 0 == done.token

/-- Whether a branch is followed, and what it means for the pair. `follow` holds the letters that
may follow each token. -/
def contestBranch (n : Nfa) (follow : Array BitSet) (i j : Nat) (done : Option Completion)
    (hasSeparator : Bool) (br : Branch) (p : Pair) : Bool × Pair :=
  match done with
  | none => (true, p)
  | some d =>
    if isForeign n d br then
      let other := if d.token = i then j else i
      if n.prefersBranch br d hasSeparator then
        let valid := br.letters.meets (follow.getD d.token {})
        (true, p.note i other { continues := true, continuesValidly := valid })
      else (false, p.note i d.token { isPrefix := true })
    else (true, p)

/-- The tokens that nodes belong to. -/
def ownersOf (n : Nfa) (nodes : List Nat) : List Nat :=
  (nodes.map fun k => n.owners.getD k 0).eraseDups

/-- Lets the tokens `i` and `j` read the same letters side by side. -/
def contest (n : Nfa) (follow : Array BitSet) (i j : Nat) :
    Nat → List (List Nat) → List (List Nat) → Pair → Pair
  | 0, _, _, p => p
  | _ + 1, [], _, p => p
  | fuel + 1, nodes :: rest, seen, p =>
    match ownersOf n nodes with
    | [only] => contest n follow i j fuel rest seen (p.note i only { otherText := true })
    | _ =>
      let reach := n.reach nodes
      let (done, p) := contestCompletions n i reach.hasSeparator reach.completions none p
      let (todo, seen, p) := reach.branches.foldl (fun (todo, seen, p) br =>
        let (follows, p) := contestBranch n follow i j done reach.hasSeparator br p
        if follows && !seen.contains br.targets then (br.targets :: todo, br.targets :: seen, p)
        else (todo, seen, p)) (rest, seen, p)
      contest n follow i j fuel todo seen p

/-- More steps than any contest of two tokens takes. -/
def contestLimit : Nat := 100000

/-! ## What may follow a token -/

/-- The tokens that may follow a token directly, as far as productions say. -/
def followTokens (l : Language) (e : Edges) : Array BitSet :=
  let tokens := l.tokens.size
  let pairs : List (BitSet × BitSet) := l.phrases.toList.flatMap fun phrase =>
    phrase.productions.flatMap fun p =>
      (p.steps.zip p.steps.tail).map fun (s, t) =>
        (e.lastOf (nextOf l s.symbol), e.firstOf (nextOf l t.symbol))
  let extras := l.extras.filterMap fun
    | .token t => some t
    | _ => none
  let all := BitSet.ofList (List.range tokens)
  (Array.range tokens).map fun i =>
    if extras.contains i then all
    else pairs.foldl (fun s (before, after) => if before.contains i then s.union after else s)
      (BitSet.ofList extras)

/-- The letters that may follow each token. -/
def followLetters (l : Language) (e : Edges) (n : Nfa) : Array BitSet :=
  let starts := (Array.range l.tokens.size).map n.startLetters
  (followTokens l e).map fun after =>
    after.toList.foldl (fun s t => s.union (starts.getD t {})) {}

/-! ## All contests -/

/-- The fate of each token beside each other one. -/
structure Contests where
  /-- The fates, by the token and the one beside it. -/
  fates : Array (Array Fate)
  deriving Inhabited

/-- The contests of a language. -/
def Contests.of (l : Language) (e : Edges) (n : Nfa) : Contests :=
  let tokens := l.tokens.size
  let follow := followLetters l e n
  let pairs : Array (Array Pair) := (Array.range tokens).map fun i =>
    (Array.range i).map fun j =>
      contest n follow i j contestLimit [[n.starts.getD i 0, n.starts.getD j 0]] [] {}
  ⟨(Array.range tokens).map fun i => (Array.range tokens).map fun j =>
    if j < i then ((pairs.getD i #[]).getD j {}).left
    else if i < j then ((pairs.getD j #[]).getD i {}).right
    else {}⟩

namespace Contests

variable (c : Contests)

/-- The fate of the token `i` beside the token `j`. -/
def fate (i j : Nat) : Fate := (c.fates.getD i #[]).getD j {}

/-- Whether the token `i` can displace the token `j` where both are possible. -/
def displaces (i j : Nat) : Bool :=
  let f := c.fate i j
  f.continuesValidly || f.beforeSeparator || f.sameText

/-- Whether the token `i` can displace the token `j`, but not the other way round by a separator. -/
def outgrows (i j : Nat) : Bool :=
  let f := c.fate i j
  (f.continuesValidly || f.beforeSeparator) && !(c.fate j i).beforeSeparator

/-- Whether the two tokens touch each other in any way, as the token `i` sees it. -/
def touches (i j : Nat) : Bool :=
  let f := c.fate i j
  f.beforeSeparator || f.isPrefix || f.sameText || f.continues

/-- Whether two tokens fare alike beside a third one. -/
def alike (i j other : Nat) : Bool :=
  if i = other ∨ j = other then i == j else c.fate i other == c.fate j other

end Contests

end Diagnosis.Automaton
