import Diagnosis.Parsing.Output
import Diagnosis.Parsing.Recover
import Diagnosis.Parsing.Token

/-!
# The parser

`parse` reads a text by a table and gives its tree. It follows all ways to read the text side by
side: each round lets every way go on a little (`advanceAll`), then compares them (`condense`),
drops those that have become hopeless, and lets one of those that wait at a fault deal with it.

Any text has a tree. A tree of a faulty text is the one whose faults cost the least, among the ways
that were followed.
-/

namespace Diagnosis.Parsing

open Diagnosis.Automaton

/-- What an action has done to a way. -/
inductive Outcome where
  /-- The terminal has been taken, or the way has ended. -/
  | done
  /-- Constructs have been closed; the first new head of the last one, if there is one. -/
  | reduced (head : Option Nat)
  /-- Nothing could be done. -/
  | stuck

namespace Setting

variable (e : Setting)

/-- Takes a terminal. -/
def take (v : Nat) (lookahead : Subtree) (isExtra : Bool) (state : Nat) (m : Machine) : Machine :=
  m.push v (some { lookahead with isExtra }) state

/-- Does what a state does at a terminal. Constructs are closed on the side; the first other action
ends it. -/
def act (v state : Nat) (lookahead : Subtree) : List Action → Outcome → Machine → Outcome × Machine
  | [], outcome, m => (outcome, m)
  | a :: rest, outcome, m =>
    match a with
    | .shift _ true => act v state lookahead rest outcome m
    | .shift s false => (.done, take v lookahead false s m)
    | .shiftExtra => (.done, take v lookahead true state m)
    | .reduce construct count weight shape =>
      let (head, m) := e.reduce v construct count weight shape m
      let last := match outcome with
        | .reduced last => last
        | _ => none
      act v state lookahead rest (.reduced (head.orElse fun _ => last)) m
    | .accept => (.done, e.complete v lookahead m)
    | .recover => (.done, e.recover v lookahead m)

/-- The word that a keyword is, where a state has a use for a word but not for the keyword. -/
def asWord? (state : Nat) (lookahead : Subtree) : Option Subtree :=
  match lookahead.kind with
  | .terminal t =>
    if lookahead.isKeyword && t != e.table.word && !e.table.isReserved state t
        && !(e.table.actions state e.table.word).isEmpty then
      let word : Kind := .terminal e.table.word
      some { lookahead with kind := word, isVisible := (word.face e.table).isVisible }
    else none
  | _ => none

/-- Pauses a way at a fault. -/
def pause (v : Nat) (lookahead : Subtree) (m : Machine) : Machine :=
  let count := (m.top v).nodeCount
  m.updateHead v fun h =>
    { h with status := .paused, lookahead := some lookahead, nodesAtFault := count }

/-- Lets a way go on at a terminal, until that is taken. -/
def advanceAt (v : Nat) : Nat → Nat → Subtree → Machine → Machine
  | 0, _, _, m => m.halt v
  | fuel + 1, state, lookahead, m =>
    match e.act v state lookahead (e.actionsAt state lookahead) .stuck m with
    | (.done, m) => m
    | (.reduced (some w), m) =>
      let m := m.renumber w v
      advanceAt v fuel (m.state v) lookahead m
    | (.reduced none, m) => m.halt v
    | (.stuck, m) =>
      match e.asWord? state lookahead with
      | some word => advanceAt v fuel state word m
      | none => if state = 0 then e.recover v lookahead m else pause v lookahead m

/-- The most constructs that are closed between two terminals. -/
def reductionLimit (m : Machine) : Nat := 64 * m.stack.size + 4096

/-- Lets a way go on by one terminal. -/
def advance (v : Nat) (m : Machine) : Machine :=
  let state := m.state v
  let (lookahead, m) := (e.nextToken v state).run m
  e.advanceAt v (reductionLimit m) state lookahead m

/-- Lets a way go on until it is ahead of all others. `reached` is the offset that has been reached.
-/
def advanceUntil (v : Nat) : Nat → Nat → Machine → Nat × Machine
  | 0, reached, m => (reached, m.halt v)
  | fuel + 1, reached, m =>
    if (m.head v).status = .active ∧ v < m.heads.size then
      let m := e.advance v m
      let position := m.position v
      if position > reached ∨ (v > 0 ∧ position = reached) then (position, m)
      else advanceUntil v fuel reached m
    else (reached, m)

/-- Lets each way go on, those included that come about meanwhile. -/
def advanceAll (limit : Nat) : Nat → Nat → Nat → Machine → Nat × Machine
  | 0, _, reached, m => (reached, m)
  | fuel + 1, v, reached, m =>
    if v < m.heads.size then
      let (reached, m) := e.advanceUntil v limit reached m
      advanceAll limit fuel (v + 1) reached m
    else (reached, m)

/-! ## Comparing ways -/

/-- Exchanges two heads. -/
def swapHeads (v w : Nat) (m : Machine) : Machine := { m with heads := m.heads.swapIfInBounds v w }

/-- Compares the head `w` with the heads from `v` up to it; `here` is its standing. Gives the number
of the last head that has been dealt with. -/
def compareWith (here : Machine.Standing) : Nat → Nat → Nat → Machine → Nat × Machine
  | 0, _, w, m => (w, m)
  | fuel + 1, v, w, m =>
    if w ≤ v then (w + 1, m)
    else
      let m := m.settleCount v
      match Machine.compareStandings (m.standing v) here with
      | .takeFirst => (w, m.removeHead w)
      | .first | .neither =>
        match m.merge v w with
        | (true, m) => (w, m)
        | (false, m) => compareWith here fuel (v + 1) w m
      | .second =>
        match m.merge v w with
        | (true, m) => (w, m)
        | (false, m) => compareWith here fuel (v + 1) w (swapHeads v w m)
      | .takeSecond => compareWith here fuel v (w - 1) (m.removeHead v)

/-- The lesser of a cost and the least one so far. -/
def lesser (least : Option Nat) (cost : Nat) : Option Nat :=
  match least with
  | some n => some (min n cost)
  | none => some cost

/-- Compares all ways with each other, and drops those that are hopeless. Gives the least cost of a
way that is not at a fault. -/
def compareAll : Nat → Nat → Option Nat → Machine → Option Nat × Machine
  | 0, _, least, m => (least, m)
  | fuel + 1, w, least, m =>
    if m.heads.size ≤ w then (least, m)
    else if (m.head w).status = .halted then compareAll fuel w least (m.removeHead w)
    else
      let m := m.settleCount w
      let here := m.standing w
      let least := if here.isFaulty then least else lesser least here.cost
      let (next, m) := compareWith here (2 * m.heads.size + 2) 0 w m
      compareAll fuel next least m

/-- Lets the first way that waits at a fault deal with it, if no way before it is active, and drops
the other waiting ones. `count` ways from `v` on are looked at. -/
def resume (v : Nat) : Nat → Bool → Option Nat → Machine → Option Nat × Machine
  | 0, _, least, m => (least, m)
  | count + 1, busy, least, m =>
    if (m.head v).status = .paused then
      if !busy && m.completions < headLimit then
        let least := some (m.costOf v)
        let lookahead := (m.head v).lookahead.getD default
        let m := m.updateHead v fun h => { h with status := .active, lookahead := none }
        resume (v + 1) count true least (e.handleFault v lookahead m)
      else resume v count busy least (m.removeHead v)
    else resume (v + 1) count true least m

/-- Compares the ways and deals with faults. Gives the least cost of a way. -/
def condense (m : Machine) : Option Nat × Machine :=
  let (least, m) := compareAll (2 * m.heads.size + 2) 0 none m
  let m := { m with heads := m.heads.take headLimit }
  e.resume 0 m.heads.size false least m

/-! ## The whole text -/

/-- Whether the best complete tree costs less than all ways that are still followed. -/
def isSettled (m : Machine) (least : Option Nat) : Bool :=
  match m.finished, least with
  | some t, some n => t.cost < n
  | some _, none => true
  | none, _ => false

/-- Runs the parser until the best tree is found or no way is left. -/
def run (limit : Nat) : Nat → Nat → Machine → Machine
  | 0, _, m => m
  | fuel + 1, reached, m =>
    let (reached, m) := e.advanceAll limit limit 0 reached m
    let count := m.heads.size
    let (least, m) := e.condense m
    if isSettled m least || count = 0 then m else run limit fuel reached m

/-- The most rounds that a text of a size takes. -/
def roundLimit : Nat := 64 * e.input.size + 4096

end Setting

/-- The tree of a text. -/
def parse (t : Table) (scan : ExternalScan) (data : Text.Bytes) : Syntax.Tree :=
  let e : Setting := ⟨t, .ofBytes data, scan⟩
  match (e.run e.roundLimit e.roundLimit 0 Machine.start).finished with
  | some s => s.toTree t
  | none => { kind := Syntax.Tree.errorKind, start := 0, stop := data.length }

end Diagnosis.Parsing
