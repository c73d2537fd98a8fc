import Diagnosis.Automaton.Keyword

/-!
# Merging states

States that differ only in what they know of the terminals ahead are merged where that changes
nothing that the parser does. States start out in groups by their cores, and a group is split as
long as two of its states

* have different actions at a terminal, or one has an action at a terminal that could be mistaken
  for one of the other's (`clash`), or
* lead into different groups (`diverge`).

Afterwards, states that can do nothing but close a hidden construct of one part are passed over, and
states that nothing leads to are no longer `reachable`.
-/

namespace Diagnosis.Automaton

open Diagnosis.Grammar

/-- States while they are being merged. -/
structure Merging where
  /-- The states. -/
  states : Array State
  /-- The terminals at which each state has an action. -/
  present : Array BitSet
  /-- For each terminal, the tokens that it could be mistaken for. -/
  rivals : Array BitSet
  /-- The terminals that can be mistaken for any token. -/
  wild : BitSet
  /-- The number of terminals. -/
  terminals : Nat

namespace Facts

variable (f : Facts)

/-- Whether one of two tokens is the word token and the other a keyword. -/
def isWordAndKeyword (i j : Nat) : Bool :=
  (i == f.language.word && f.keywords.contains j) || (j == f.language.word && f.keywords.contains i)

/-- The tokens that a token could be mistaken for. -/
def rivalsOf (i : Nat) : BitSet :=
  BitSet.ofList ((List.range f.tokens).filter fun j =>
    !f.isWordAndKeyword i j && f.contests.displaces i j)

/-- The terminals that can be mistaken for any token: external ones and those that are also
external. -/
def wildTerminals : BitSet :=
  let externals := f.language.externals.toList
  BitSet.ofList ((List.range externals.length).map (f.tokens + ·)
    ++ externals.filterMap (·.internal))

/-- The states of a language, ready to be merged. -/
def merging (states : Array State) : Merging :=
  { states
    present := states.map State.present
    rivals := (Array.range f.tokens).map f.rivalsOf
    wild := f.wildTerminals
    terminals := terminalCount f.language }

end Facts

/-- Groups of states, and the group of each state. -/
structure Groups where
  /-- The states of each group, in order. -/
  members : Array (List Nat)
  /-- The group of each state. -/
  groupOf : Array Nat
  deriving Inhabited

namespace Merging

variable (m : Merging)

/-- The groups of states with the same core. -/
def byCore : Groups :=
  let cores := m.states.foldl (fun n s => max n (s.core + 1)) 0
  { members := (m.states.zipIdx.foldr (fun (s, i) groups => groups.modify s.core (i :: ·))
      (Array.replicate cores []))
    groupOf := m.states.map (·.core) }

/-- Whether two actions are the same, as far as groups tell states apart. -/
def sameAction (g : Groups) (a b : Action) : Bool :=
  match a, b with
  | .shift s r, .shift t q => g.groupOf.getD s 0 == g.groupOf.getD t 0 && r == q
  | a, b => a == b

/-- Whether two lists of actions are the same, as far as groups tell states apart. -/
def sameActions (g : Groups) : List Action → List Action → Bool
  | [], [] => true
  | a :: as, b :: bs => sameAction g a b && sameActions g as bs
  | _, _ => false

/-- Whether a terminal that a state lacks could be mistaken for one that it has. -/
def isMistaken (state t : Nat) : Bool :=
  m.wild.contains t || (m.rivals.getD t {}).meets (m.present.getD state {})

/-- Whether two states do different things at a terminal. -/
def clashAt (g : Groups) (i j t : Nat) : Bool :=
  match ((m.states.getD i default).actions.getD t []),
      ((m.states.getD j default).actions.getD t []) with
  | [], [] => false
  | [], _ => m.isMistaken i t
  | _, [] => m.isMistaken j t
  | as, bs => !sameActions g as bs

/-- Whether two states do different things at a terminal below `t`. -/
def clashBelow (g : Groups) (i j : Nat) : Nat → Bool
  | 0 => false
  | t + 1 => m.clashAt g i j t || clashBelow g i j t

/-- Whether two states do different things at some terminal. -/
def clash (g : Groups) (i j : Nat) : Bool := m.clashBelow g i j m.terminals

/-- Whether two lists of actions end with shifts into different groups. -/
def shiftsDiverge (g : Groups) (as bs : List Action) : Bool :=
  match as.getLast?, bs.getLast? with
  | some (.shift s _), some (.shift t _) => g.groupOf.getD s 0 != g.groupOf.getD t 0
  | _, _ => false

/-- Whether two states lead into different groups at a terminal below `t`. -/
def shiftsDivergeBelow (g : Groups) (x y : State) : Nat → Bool
  | 0 => false
  | t + 1 =>
    shiftsDiverge g (x.actions.getD t []) (y.actions.getD t []) || shiftsDivergeBelow g x y t

/-- Whether two states lead into different groups at a construct below `v`. -/
def gotosDivergeBelow (g : Groups) (x y : State) : Nat → Bool
  | 0 => false
  | v + 1 =>
    let s := x.gotos.getD v 0
    let t := y.gotos.getD v 0
    (s != 0 && t != 0 && g.groupOf.getD s 0 != g.groupOf.getD t 0) || gotosDivergeBelow g x y v

/-- Whether two states lead into different groups. -/
def diverge (g : Groups) (i j : Nat) : Bool :=
  let x := m.states.getD i default
  let y := m.states.getD j default
  shiftsDivergeBelow g x y m.terminals || gotosDivergeBelow g x y x.gotos.size

/-- The members of a group that stay: those that differ from none of the members before them that
stay. -/
def staying (differ : Nat → Nat → Bool) (members : List Nat) : List Nat :=
  (members.foldl (fun kept x => if kept.any (differ · x) then kept else x :: kept) []).reverse

/-- Splits one group in two, if two of its members differ. -/
def splitGroup (differ : Groups → Nat → Nat → Bool) (k : Nat) (g : Groups) : Groups :=
  let members := g.members.getD k []
  let kept := staying (differ g) members
  if kept.length = members.length then g
  else
    let moved := members.filter (!kept.contains ·)
    let new := g.members.size
    { members := (g.members.set! k kept).push moved
      groupOf := moved.foldl (fun groups x => groups.set! x new) g.groupOf }

/-- Splits all groups from the group `k` on, those that come about by splitting included. -/
def splitFrom (differ : Groups → Nat → Nat → Bool) : Nat → Nat → Groups → Groups
  | 0, _, g => g
  | fuel + 1, k, g =>
    if k < g.members.size then splitFrom differ fuel (k + 1) (splitGroup differ k g) else g

/-- Splits groups until no two states of a group lead into different groups. -/
def splitUntilStable (limit : Nat) : Nat → Groups → Groups
  | 0, g => g
  | fuel + 1, g =>
    let next := splitFrom m.diverge limit 0 g
    if next.members.size = g.members.size then g else splitUntilStable limit fuel next

/-- The groups of states that can be merged. -/
def groups : Groups :=
  let limit := m.states.size + 1
  m.splitUntilStable limit limit (splitFrom m.clash limit 0 m.byCore)

end Merging

/-! ## The merged automaton -/

/-- A state of the merged automaton. -/
structure MergedState where
  /-- What it does at each terminal. -/
  actions : Array (List Action)
  /-- Where each construct leads; zero for nowhere. -/
  gotos : Array Nat
  /-- The tokens that are reserved in it. -/
  reserved : BitSet
  deriving Inhabited

/-- Changes the states to which actions lead. -/
def Action.redirect (f : Nat → Nat) : Action → Action
  | shift s r => shift (f s) r
  | a => a

/-- Exchanges two groups. -/
def Groups.swap (g : Groups) (i j : Nat) : Groups :=
  let a := g.members.getD i []
  let b := g.members.getD j []
  let put := fun (members : List Nat) (k : Nat) (groups : Array Nat) =>
    members.foldl (fun groups x => groups.set! x k) groups
  { members := (g.members.set! i b).set! j a
    groupOf := put a j (put b i g.groupOf) }

/-- Brings the group of a state to a place. -/
def Groups.bring (g : Groups) (state place : Nat) : Groups := g.swap (g.groupOf.getD state 0) place

/-- The state that a group of states becomes. -/
def mergeMembers (l : Language) (states : Array State) (g : Groups) (members : List Nat) :
    MergedState :=
  let target := fun s => g.groupOf.getD s 0
  let found := members.map fun i => states.getD i default
  let merge := found.foldl (fun (acc : Array (List Action) × Array Nat) s =>
    (acc.1.zipIdx.map fun (as, t) =>
        let here := s.actions.getD t []
        if here.isEmpty then as else here,
      acc.2.zipIdx.map fun (v, k) =>
        let here := s.gotos.getD k 0
        if here = 0 then v else here))
    (Array.replicate (terminalCount l) [], Array.replicate l.phrases.size 0)
  { actions := merge.1.map fun as => as.map (Action.redirect target)
    gotos := merge.2.map fun s => if s = 0 then 0 else target s
    reserved := BitSet.ofList (found.flatMap fun s =>
      ((s.reserved.map fun k => l.reserved.getD k [])).getD []) }

/-- The states that groups become. -/
def mergeStates (l : Language) (states : Array State) (g : Groups) : Array MergedState :=
  g.members.map (mergeMembers l states g)

/-! ## States that are passed over -/

/-- The constructs that appear under another name somewhere. -/
def aliasedConstructs (l : Language) : List Symbol :=
  (l.phrases.toList.flatMap fun phrase => phrase.productions.flatMap fun p =>
    p.steps.filterMap fun t => if t.otherName.isSome then some t.symbol else none).eraseDups

/-- Whether closing a construct of one part leaves no trace in the tree. -/
def isTraceless (l : Language) (shapes : Array Shape) (aliased : List Symbol) (v shape : Nat) :
    Bool :=
  (shapes.getD shape {}).isPlain && (l.ownAliases.lookup (.construct v)).isNone
    && !l.supertypes.contains (.construct v) && !aliased.contains (.construct v)
    && isHidden l v

/-- The construct that a state closes, if it does nothing but close that construct, of one part and
without a trace. -/
def soleClosing? (l : Language) (shapes : Array Shape) (aliased : List Symbol) (s : MergedState) :
    Option Nat :=
  let actions := (s.actions.toList.flatten).filter (· != .shiftExtra)
  match actions with
  | .reduce v 1 0 shape :: _ =>
    if isTraceless l shapes aliased v shape && actions.all fun
        | .reduce w 1 0 other => w == v && isTraceless l shapes aliased w other
        | _ => false
    then some v else none
  | _ => none

/-- The state that a state leads to in the end, where states that only close a construct are passed
over. -/
def passOver (closings : Array (Option Nat)) (gotos : Array Nat) : Nat → Nat → Nat
  | 0, s => s
  | fuel + 1, s =>
    match closings.getD s none with
    | none => s
    | some v =>
      let t := gotos.getD v 0
      if t = 0 then s else passOver closings gotos fuel t

/-- Passes over states that only close a construct. -/
def passOverClosings (l : Language) (shapes : Array Shape) (states : Array MergedState) :
    Array MergedState :=
  let aliased := aliasedConstructs l
  let closings := states.map (soleClosing? l shapes aliased)
  states.map fun s =>
    let target := passOver closings s.gotos 16
    { s with
      actions := s.actions.map fun as => as.map (Action.redirect target)
      gotos := s.gotos.map fun t => if t = 0 then 0 else target t }

/-- The states to which a state leads. -/
def MergedState.targets (s : MergedState) : List Nat :=
  (s.actions.toList.flatten.filterMap fun
    | .shift t _ => some t
    | _ => none) ++ s.gotos.toList.filter (· != 0)

/-- Marks the states that the states on a list lead to. -/
def markReachable (states : Array MergedState) : Nat → List Nat → Array Bool → Array Bool
  | 0, _, marks => marks
  | _ + 1, [], marks => marks
  | fuel + 1, s :: rest, marks =>
    if marks.getD s true then markReachable states fuel rest marks
    else
      markReachable states fuel ((states.getD s default).targets ++ rest) (marks.set! s true)

/-- Whether each state can be reached from the start or from a fault. -/
def reachableStates (states : Array MergedState) : Array Bool :=
  markReachable states 1000000 [0, 1] (Array.replicate states.size false)

end Diagnosis.Automaton
