import Std.Data.HashMap
import Diagnosis.Automaton.Nfa

/-!
# Recognisers

The deterministic automaton that reads a token. A `DfaState` says which token is complete there, and
where each letter leads. States are made from sets of nodes of the token automaton: a letter is
followed unless the token that is complete already is worth more than what the letter leads to.

`Dfa.ofStarts` makes all states that can be reached from several starting sets at once, so that they
share what they have in common.
-/

namespace Diagnosis.Automaton

open Diagnosis.Grammar

/-- A state of a recogniser. -/
structure DfaState where
  /-- The token that is complete. -/
  complete : Option Nat
  /-- Whether the text may end here. -/
  mayEnd : Bool
  /-- For each letter one more than the number of the state that it leads to, or zero. -/
  targets : Array Nat
  /-- The letters that belong to a separator. -/
  separators : BitSet
  deriving Inhabited

/-- What makes a state: nodes of the token automaton, in order, and whether the text may end. -/
structure DfaKey where
  /-- The nodes. -/
  nodes : List Nat
  /-- Whether the text may end. -/
  mayEnd : Bool
  deriving BEq, Hashable

/-- A recogniser. -/
structure Dfa where
  /-- The states. -/
  states : Array DfaState
  /-- The letters of the characters. -/
  alphabet : Alphabet
  deriving Inhabited

/-- The states of a recogniser while they are being found. -/
structure DfaDraft where
  /-- What makes each state. -/
  keys : Array DfaKey
  /-- The states by what makes them. -/
  numberOf : Std.HashMap DfaKey Nat

/-- The number of the state for a key, which is entered if it is new. -/
def DfaDraft.enter (d : DfaDraft) (k : DfaKey) : Nat × DfaDraft :=
  match d.numberOf[k]? with
  | some s => (s, d)
  | none => (d.keys.size, ⟨d.keys.push k, d.numberOf.insert k d.keys.size⟩)

/-- The branches of a set of nodes that are followed. -/
def followedBranches (n : Nfa) (reach : Reach) (done : Option Completion) : List Branch :=
  match done with
  | none => reach.branches
  | some c => reach.branches.filter (n.prefersBranch · c reach.hasSeparator)

/-- Makes the state for a key, and enters the states to which it leads. Whether the text may end is
remembered across separators only. -/
def makeDfaState (n : Nfa) (letters : Nat) (k : DfaKey) (d : DfaDraft) : DfaState × DfaDraft :=
  let reach := n.reach k.nodes
  let done := n.best? reach.completions
  let start : DfaState := ⟨done.map (·.token), k.mayEnd, Array.replicate letters 0, {}⟩
  (followedBranches n reach done).foldl (fun (s, d) br =>
    let (target, d) := d.enter ⟨br.targets, k.mayEnd && br.isSeparator⟩
    ({ s with
        targets := br.letters.toList.foldl (fun ts a => ts.set! a (target + 1)) s.targets
        separators := if br.isSeparator then s.separators.union br.letters else s.separators },
      d)) (start, d)

/-- Makes states until none is left to make. -/
def makeDfaStates (n : Nfa) (letters : Nat) : Nat → Array DfaState → DfaDraft → Array DfaState
  | 0, states, _ => states
  | fuel + 1, states, d =>
    match d.keys[states.size]? with
    | none => states
    | some k =>
      let (s, d) := makeDfaState n letters k d
      makeDfaStates n letters fuel (states.push s) d

/-- More states than any recogniser of this kind has. -/
def dfaLimit : Nat := 60000

/-- The key of the state that expects one of several tokens. -/
def startKey (n : Nfa) (tokens : List Nat) (mayEnd : Bool) : DfaKey :=
  ⟨((tokens.map fun t => n.starts.getD t 0).mergeSort (· ≤ ·)).eraseDups, mayEnd⟩

/-- The recogniser for several starting states, whose numbers come first. -/
def Dfa.ofStarts (n : Nfa) (a : Alphabet) (keys : List DfaKey) : Dfa × List Nat :=
  let (starts, d) := keys.foldl (fun (starts, d) k =>
    let (s, d) := DfaDraft.enter d k
    (s :: starts, d)) (([] : List Nat), (⟨#[], ∅⟩ : DfaDraft))
  (⟨makeDfaStates n a.samples.size dfaLimit #[] d, a⟩, starts.reverse)

namespace Dfa

variable (d : Dfa)

/-- The state to which a code point leads, and whether it is read as a separator. Nothing follows on
the code point zero. -/
def step? (state : DfaState) (code : Nat) : Option (Nat × Bool) :=
  if code = 0 then none
  else
    let letter := d.alphabet.letterOf code
    match state.targets.getD letter 0 with
    | 0 => none
    | s + 1 => some (s, state.separators.contains letter)

/-- The state with a number. -/
def state (s : Nat) : DfaState := d.states.getD s default

end Dfa

end Diagnosis.Automaton
