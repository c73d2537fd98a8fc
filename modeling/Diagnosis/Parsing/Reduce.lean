import Diagnosis.Parsing.Machine

/-!
# Closing constructs

`reduce` takes the parts of a construct off a way and puts the construct in their place. Where ways
have met among the parts, there are several ways to take them off: ways that end in the same node
give one construct, the best of its readings; the others go on on their own.

`reduceAll` closes whatever can be closed before a terminal, or before any terminal. `complete`
makes a tree of a way that has reached the end of the text.
-/

namespace Diagnosis.Parsing

open Diagnosis.Automaton

namespace Setting

variable (e : Setting)

/-- A subtree with the given parts. -/
def construct (kind : Kind) (children : List Subtree) (shape : Nat) : Subtree :=
  .ofChildren e.table e.input kind children shape

/-- The best construct among several lists of parts, with the extras that come after it. -/
def bestConstruct (kind : Kind) (shape : Nat) (trees : List Subtree)
    (others : List (List Subtree)) : Subtree × List Subtree :=
  let (parts, extras) := Subtree.splitExtras trees
  others.foldl (fun (best, extras) trees =>
    let (parts, others) := Subtree.splitExtras trees
    if Subtree.prefersSecond e.table best (e.construct kind parts 0) then
      (e.construct kind parts shape, others)
    else (best, extras)) (e.construct kind parts shape, extras)

/-- Puts the construct of a slice in place. `removed` counts the new heads that are gone already. -/
def placeConstruct (v halted v₀ count : Nat) (weight : Int) (shape : Nat) :
    List Machine.Slice → Nat → Machine → Machine
  | [], _, m => m
  | s :: rest, removed, m =>
    let w := s.head - removed
    if headLimit + headOverflow + halted < w then
      placeConstruct v halted v₀ count weight shape rest (removed + 1) (m.removeHead w)
    else
      let (parent, extras) := e.bestConstruct (.construct v₀) shape s.trees s.others
      let next := e.table.goto (m.state w) v₀
      let m := m.push w (some { parent with weight := parent.weight + weight }) next
      let m := m.pushAll w extras next
      let (merged, m) := m.mergeFirst w ((List.range w).filter (· != v))
      placeConstruct v halted v₀ count weight shape rest (if merged then removed + 1 else removed) m

/-- Closes a construct of `count` parts. Gives the first new head, if there is one. -/
def reduce (v construct count : Nat) (weight : Int) (shape : Nat) (m : Machine) :
    Option Nat × Machine :=
  let first := m.heads.size
  let (slices, m) := m.pop v count
  let halted := m.heads.countP (·.status == .halted)
  let m := e.placeConstruct v halted construct count weight shape slices 0 m
  (if first < m.heads.size then some first else none, m)

/-! ## Whatever can be closed -/

/-- What can be done at some terminals: whether one of them can be taken, and the constructs that
can be closed, of each number of parts the first one. -/
def options (state : Nat) (terminals : List Nat) : Bool × List Action :=
  let actions := terminals.flatMap (e.table.actions state)
  let canTake := actions.any fun
    | .shift _ isRepetition => !isRepetition
    | .recover => true
    | _ => false
  let sameConstruct := fun (a b : Action) => match a, b with
    | .reduce v n _ _, .reduce w k _ _ => v == w && n == k
    | _, _ => false
  let closings := actions.foldl (fun found a => match a with
    | .reduce _ (_ + 1) _ _ => if found.any (sameConstruct a) then found else found ++ [a]
    | _ => found) []
  (canTake, closings)

/-- Closes several constructs; gives the first new head of the last one. -/
def reduceEach (v : Nat) (actions : List Action) (m : Machine) : Option Nat × Machine :=
  actions.foldl (fun (_, m) a => match a with
    | .reduce construct count weight shape => e.reduce v construct count weight shape m
    | _ => (none, m)) (none, m)

/-- The terminals that a lookahead may be. None and the end of the text stand for any of them. -/
def trials (lookahead : Option Nat) : List Nat :=
  match lookahead with
  | some t => if t = e.table.finish then e.table.trialOrder else [t]
  | none => e.table.trialOrder

/-- Whether a lookahead is a terminal other than the end of the text. -/
def isDefinite (lookahead : Option Nat) : Bool :=
  match lookahead with
  | some t => t != e.table.finish
  | none => false

/-- Closes whatever can be closed, from the head `start` on; `v` is the head to go on with, `first`
the first new one, `round` counts the rounds. Says whether a terminal can then be taken. -/
def reduceFrom (start first : Nat) (lookahead : Option Nat) :
    Nat → Nat → Nat → Bool → Machine → Bool × Machine
  | 0, _, _, can, m => (can, m)
  | fuel + 1, v, round, can, m =>
    let size := m.heads.size
    if size ≤ v then (can, m)
    else
      let again := reduceFrom start first lookahead fuel
      match m.mergeFirst v ((List.range v).drop first) with
      | (true, m) => again v (round + 1) can m
      | (false, m) =>
        let (canTake, closings) := e.options (m.state v) (e.trials lookahead)
        let (new, m) := e.reduceEach v closings m
        let next := if v = start then size else v + 1
        match canTake, new with
        | true, _ => again next (round + 1) true m
        | false, some w =>
          if round < headLimit then again v (round + 1) can (m.renumber w v)
          else
            again next (round + 1) can (if e.isDefinite lookahead then m.removeHead v else m)
        | false, none =>
          again next (round + 1) can (if e.isDefinite lookahead then m.removeHead v else m)

/-- Closes whatever can be closed before a terminal, or before any. Says whether one can be taken.
-/
def reduceAll (v : Nat) (lookahead : Option Nat) (m : Machine) : Bool × Machine :=
  e.reduceFrom v m.heads.size lookahead 4096 v 0 false m

/-! ## Complete trees -/

/-- The tree of a whole text: the parts of its last construct take the construct's place. -/
def rootOf (trees : List Subtree) : Option Subtree :=
  let after := (trees.reverse.takeWhile (·.isExtra)).reverse
  match trees.reverse.dropWhile (·.isExtra) with
  | [] => none
  | t :: before => some (e.construct t.kind (before.reverse ++ t.children ++ after) t.shape)

/-- Notes a complete tree, if it is the best so far. -/
def noteComplete (m : Machine) (trees : List Subtree) : Machine :=
  match e.rootOf trees with
  | none => m
  | some root =>
    let better := match m.finished with
      | none => true
      | some t => Subtree.prefersSecond e.table t root
    { m with
      completions := m.completions + 1
      finished := if better then some root else m.finished }

/-- Completes a way that has reached the end of the text. -/
def complete (v : Nat) (lookahead : Subtree) (m : Machine) : Machine :=
  let (slices, m) := (m.push v (some lookahead) 1).popAll v
  let ways := slices.flatMap fun s => s.trees :: s.others
  let m := ways.foldl e.noteComplete m
  let m := match slices with
    | [] => m
    | s :: _ => m.removeHead s.head
  m.halt v

end Setting

end Diagnosis.Parsing
