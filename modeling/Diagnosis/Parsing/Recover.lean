import Diagnosis.Parsing.Reduce

/-!
# Faults

What the parser does where a text goes on in no way that it knows. There are three ways out, and it
tries all of them:

* suppose a token that is missing, if the text then goes on;
* go back to a state below in which the text goes on, and set aside what has been read since;
* skip the terminal.

Each has its cost, and a way that costs more than another one does is not taken.
-/

namespace Diagnosis.Parsing

open Diagnosis.Automaton

namespace Setting

variable (e : Setting)

/-- The number of the terminal that a subtree is, if it is one. -/
def terminalOf? (t : Subtree) : Option Nat :=
  match t.kind with
  | .terminal i => some i
  | _ => none

/-- What a state does at a subtree that is a terminal. -/
def actionsAt (state : Nat) (t : Subtree) : List Action :=
  match terminalOf? t with
  | some i => e.table.actions state i
  | none => []

/-! ## Going back -/

/-- Sets the subtrees above a state aside as text that fits no construct. -/
def setAside (goal : Nat) (s : Machine.Slice) (m : Machine) : Machine :=
  let (fault, m) := m.popFault s.head
  let trees := ((fault.map (·.children)).getD []) ++ s.trees
  let (parts, extras) := Subtree.splitExtras trees
  let m :=
    if parts.isEmpty then m
    else m.push s.head (some { e.construct .fault parts 0 with isExtra := true }) goal
  m.pushAll s.head extras goal

/-- Goes back to a state, `depth` subtrees below. Says whether that is possible. -/
def goBack (v depth goal : Nat) (m : Machine) : Bool × Machine :=
  let (slices, m) := m.pop v depth
  slices.foldl (fun (done, m) s =>
    if m.state s.head = goal then (true, e.setAside goal s m) else (done, m.halt s.head)) (false, m)

/-- Goes back to the first state in which the text goes on at the terminal, unless that costs too
much. `known` is the number of heads before. -/
def goBackToFirst (v known nodes cost : Nat) (lookahead : Subtree) :
    List Stack.Depth → Machine → Bool × Machine
  | [], m => (false, m)
  | d :: rest, m =>
    let position := m.position v
    let depth := if nodes > 0 then d.depth + 1 else d.depth
    let isThere := (List.range known).any fun j =>
      m.state j == d.state && m.position j == position
    if d.state = 0 ∨ d.position = position ∨ isThere then
      goBackToFirst v known nodes cost lookahead rest m
    else
      match m.hasBetter v false (cost + Cost.between e.input d.position position) with
      | (true, m) => (false, m)
      | (false, m) =>
        if (e.actionsAt d.state lookahead).isEmpty then
          goBackToFirst v known nodes cost lookahead rest m
        else
          match e.goBack v depth d.state m with
          | (true, m) => (true, m)
          | (false, m) => goBackToFirst v known nodes cost lookahead rest m

/-- Drops the heads from a number on that are not active. -/
def dropInactive (first : Nat) (m : Machine) : Machine :=
  { m with heads := (m.heads.toList.take first
      ++ (m.heads.toList.drop first).filter (·.status == .active)).toArray }

/-! ## Skipping -/

/-- Skips a terminal. Where text has been skipped just before, it joins that. -/
def skipTerminal (v nodes : Nat) (lookahead : Subtree) (m : Machine) : Machine :=
  let isExtra := (e.actionsAt 1 lookahead).getLast? == some .shiftExtra
  let lookahead := if isExtra then { lookahead with isExtra := true } else lookahead
  let part := e.construct .faultPart [lookahead] 0
  if nodes = 0 then m.push v (some part) 0
  else
    match m.pop v 1 with
    | ([], m) => m.push v (some part) 0
    | (s :: _, m) =>
      let m := { m with heads := m.heads.take (s.head + 1) }
      let m := m.renumber s.head v
      m.push v (some (e.construct .faultPart (s.trees ++ [part]) 0)) 0

/-- Completes a way that is at a fault at the end of the text. -/
def giveUp (v : Nat) (lookahead : Subtree) (m : Machine) : Machine :=
  let position := m.position v
  let nothing : Subtree :=
    { e.construct .fault [] 0 with
      origin := position, start := position, stop := position, faults := Cost.recovery }
  e.complete v lookahead (m.push v (some nothing) 1)

/-- Skips a terminal, unless that costs too much. `cost` is the cost of the way so far. -/
def skipOrHalt (v nodes cost : Nat) (lookahead : Subtree) (m : Machine) : Machine :=
  let cost := cost + Cost.tree + Cost.between e.input lookahead.origin lookahead.stop
  match m.hasBetter v false cost with
  | (true, m) => m.halt v
  | (false, m) => e.skipTerminal v nodes lookahead m

/-- Deals with a terminal at a fault: goes back, and also skips it. -/
def recover (v : Nat) (lookahead : Subtree) (m : Machine) : Machine :=
  let known := m.heads.size
  let m := m.settleCount v
  let nodes := m.nodesSinceFault v
  let cost := m.costOf v
  let depths := if lookahead.kind == .fault then [] else (m.head v).depths.getD []
  let (done, m) := e.goBackToFirst v known nodes cost lookahead depths m
  let m := dropInactive known m
  if done && headLimit < m.heads.size then m.halt v
  else if terminalOf? lookahead == some e.table.finish then e.giveUp v lookahead m
  else e.skipOrHalt v nodes cost lookahead m

/-! ## Supposing -/

/-- Supposes one of the given terminals after which a construct can be closed before the terminal
that is there. Says whether the text then goes on. -/
def suppose (v : Nat) (lookahead : Subtree) : List Nat → Machine → Bool × Machine
  | [], m => (false, m)
  | t :: rest, m =>
    let state := m.state v
    let next := e.table.shiftTarget state t
    let canClose := match e.actionsAt next lookahead with
      | .reduce _ _ _ _ :: _ => true
      | _ => false
    if next = 0 ∨ next = state ∨ !canClose then suppose v lookahead rest m
    else
      let (w, m) := m.copyHead v
      let position := m.position w
      let token := Subtree.leaf e.table (.terminal t) position position position false
      let m := m.push w (some { token with isMissing := true }) next
      match e.reduceAll w (terminalOf? lookahead) m with
      | (true, m) => (true, m)
      | (false, m) => suppose v lookahead rest m

/-- Supposes a terminal in one of several ways, and lets each way go on at the fault. -/
def supposeInEach (lookahead : Subtree) : List Nat → Bool → Machine → Machine
  | [], _, m => m
  | v :: rest, done, m =>
    let (found, m) := if done then (true, m) else e.suppose v lookahead e.table.trialOrder m
    supposeInEach lookahead rest found (m.push v none 0)

/-- Makes one way of `v` and the `count` ways from the head `first` on. -/
def mergeAll (v first : Nat) : Nat → Machine → Machine
  | 0, m => m
  | count + 1, m => mergeAll v first count (m.merge v first).2

/-- Deals with a fault that has just been found: closes whatever can be closed, supposes a missing
token, and recovers. -/
def handleFault (v : Nat) (lookahead : Subtree) (m : Machine) : Machine :=
  let known := m.heads.size
  let (_, m) := e.reduceAll v none m
  let added := m.heads.size - known
  let ways := v :: (List.range m.heads.size).drop known
  let m := e.supposeInEach lookahead ways false m
  let m := mergeAll v known added m
  let depths := m.stack.depths (m.head v).node
  e.recover v lookahead (m.updateHead v fun h => { h with depths := some depths })

end Setting

end Diagnosis.Parsing
