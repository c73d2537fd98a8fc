import Diagnosis.Automaton.Merge

/-!
# What is looked for together

In each state only some tokens are possible, and only those are looked for. States whose tokens do
not get in each other's way look for all of them together: they form a lexical group. `lexGroupsOf`
goes through the states, those with the most to do first, and puts each into the first group that it
fits.
-/

namespace Diagnosis.Automaton

open Diagnosis.Grammar

/-- A set of tokens that are looked for together. -/
structure LexGroup where
  /-- The tokens. -/
  tokens : BitSet
  /-- Whether the text may end. -/
  mayEnd : Bool
  deriving BEq, Inhabited

namespace MergedState

variable (s : MergedState)

/-- Whether a state has an action at a terminal. -/
def expects (t : Nat) : Bool := !(s.actions.getD t []).isEmpty

/-- The number of terminals and constructs that a state knows what to do with. -/
def breadth : Nat := s.actions.countP (!·.isEmpty) + s.gotos.countP (· != 0)

end MergedState

namespace Facts

variable (f : Facts)

/-- The tokens that a state looks for. Keywords are looked for as words. -/
def lexGroupOf (s : MergedState) : LexGroup :=
  let tokens := (List.range f.tokens).filter fun t => s.expects t || s.reserved.contains t
  { tokens := BitSet.ofList (tokens.map fun t =>
      if f.keywords.contains t then f.language.word else t)
    mayEnd := s.expects (finishIndex f.language) }

/-- Whether the token `t` can be looked for along with others. -/
def fitsBeside (others : BitSet) (t : Nat) : Bool :=
  others.toList.all fun x =>
    !f.contests.displaces t x && !(f.contests.fate t x).isPrefix
      && (f.together t x || !(f.contests.touches x t || f.contests.touches t x))

/-- Whether two groups can become one: no token of just one of them gets in the way of the other's.
-/
def fit (a b : LexGroup) : Bool :=
  (a.tokens.diff b.tokens).toList.all (f.fitsBeside b.tokens)
    && (b.tokens.diff a.tokens).toList.all (f.fitsBeside a.tokens)

/-- Puts a group into the first one that it fits, and says which one that is. -/
def placeGroup (groups : Array LexGroup) (g : LexGroup) : Nat × Array LexGroup :=
  match groups.findIdx? (f.fit · g) with
  | some i =>
    (i, groups.modify i fun h => ⟨h.tokens.union g.tokens, h.mayEnd || g.mayEnd⟩)
  | none => (groups.size, groups.push g)

/-- The order in which states are put into groups: the state for faults, the first state, and the
others with the most to do first. -/
def groupingOrder (states : Array MergedState) (reachable : Array Bool) : List Nat :=
  let others := ((List.range states.size).drop 2).filter fun i => reachable.getD i false
  let keyed := others.map fun i => ((states.getD i default).breadth, i)
  0 :: 1 :: (keyed.mergeSort fun a b => b.1 < a.1 || (a.1 == b.1 && a.2 ≤ b.2)).map (·.2)

/-- The lexical groups, and the group of each state. -/
def lexGroupsOf (states : Array MergedState) (reachable : Array Bool) :
    Array LexGroup × Array Nat :=
  (groupingOrder states reachable).foldl (fun (groups, groupOf) i =>
    let (k, groups) := f.placeGroup groups (f.lexGroupOf (states.getD i default))
    (groups, groupOf.set! i k)) (#[], Array.replicate states.size 0)

end Facts

end Diagnosis.Automaton
