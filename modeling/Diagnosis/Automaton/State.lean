import Std.Data.HashMap
import Diagnosis.Automaton.Lookahead

/-!
# States

The canonical automaton of a language. A state is a set of items with the terminals that may follow
each; a terminal or a construct leads from one state to the next.

Where a terminal allows several actions, precedences decide. What they leave undecided stays: the
parser follows all of it.
-/

namespace Diagnosis.Automaton

open Diagnosis.Grammar

/-- What a state does at a terminal. -/
inductive Action where
  /-- Takes the terminal and goes to a state. A shift that only prolongs a repetition is set aside
  where the repetition can be closed instead. -/
  | shift (state : Nat) (isRepetition : Bool)
  /-- Takes the terminal and stays. -/
  | shiftExtra
  /-- Closes a production of `count` steps of a construct. -/
  | reduce (construct count : Nat) (weight : Int) (shape : Nat)
  /-- The text is complete. -/
  | accept
  /-- Skips the terminal, while a fault is dealt with. -/
  | recover
  deriving BEq, DecidableEq, Hashable, Inhabited, Repr

/-- An item of a state. -/
structure Entry where
  /-- The item. -/
  item : Nat
  /-- The terminals that may follow its production. -/
  lookahead : BitSet
  /-- The list of words that are reserved after it. -/
  reserved : Nat
  deriving BEq, Hashable, Inhabited

/-- The items that make a state what it is, in order. -/
abbrev Kernel := Array Entry

/-- A state of the automaton. -/
structure State where
  /-- What it does at each terminal. -/
  actions : Array (List Action)
  /-- Where each construct leads; zero for nowhere. -/
  gotos : Array Nat
  /-- The list of words that are reserved in it. -/
  reserved : Option Nat := none
  /-- The number that states with the same kernel items share. -/
  core : Nat := 0
  deriving Inhabited

/-- What the construction of states needs to know of the language. -/
structure Blueprint where
  /-- The items. -/
  table : ItemTable
  /-- The edges of constructs. -/
  edges : Edges
  /-- What each construct adds to a state that expects it. -/
  additions : Array (Array Addition)
  /-- Chains of precedences and constructs, the strongest first. -/
  precedences : List (List (String ⊕ String))
  /-- The names of the constructs. -/
  names : Array String
  /-- Which constructs were made for repetitions. -/
  auxiliary : Array Bool
  /-- The number of terminals. -/
  terminals : Nat
  /-- The terminals that may stand anywhere. -/
  extras : List Nat

/-- The blueprint of a language. -/
def Blueprint.of (l : Language) : Blueprint :=
  let table := ItemTable.of l
  let edges := Edges.of l
  { table
    edges
    additions := (Array.range l.phrases.size).map (additionsOf l edges table)
    precedences := l.precedences
    names := l.phrases.map (·.name)
    auxiliary := l.phrases.map (·.visibility == .auxiliary)
    terminals := terminalCount l
    extras := l.extras.filterMap fun s => match nextOf l s with
      | .terminal t => some t
      | _ => none }

namespace Blueprint

variable (b : Blueprint)

/-- An item by its number. -/
def item (i : Nat) : Item := b.table.items.getD i {}

/-! ## The items of a state -/

/-- The items of a state while it is being filled: the entries, and for each item one more than the
index of its entry. -/
structure Filling where
  /-- The entries. -/
  entries : Array Entry
  /-- For each item one more than the index of its entry, or zero. -/
  slots : Array Nat

/-- Joins an entry to the entries. -/
def Filling.add (f : Filling) (item : Nat) (lookahead : BitSet) (reserved : Nat) : Filling :=
  let k := f.slots.getD item 0
  if k = 0 then
    { entries := f.entries.push ⟨item, lookahead, reserved⟩
      slots := f.slots.set! item (f.entries.size + 1) }
  else
    { f with entries := f.entries.modify (k - 1) fun e =>
        { e with lookahead := e.lookahead.union lookahead, reserved := max e.reserved reserved } }

/-- The list of reserved words, if a word may follow at all. -/
def reservedIfWord (lookahead : BitSet) (reserved : Nat) : Nat :=
  if lookahead.contains b.edges.word then reserved else 0

/-- Joins an entry and everything that its next symbol adds. -/
def addEntry (f : Filling) (e : Entry) : Filling :=
  let item := b.item e.item
  let f := f.add e.item e.lookahead e.reserved
  match item.next with
  | .construct v =>
    let (after, reserved) := match item.following with
      | some (next, n) => (b.edges.firstOf next, b.edges.reservedFirst n next)
      | none => (e.lookahead, e.reserved)
    let reserved := b.reservedIfWord after reserved
    (b.additions.getD v #[]).foldl (fun f a =>
      let own := b.reservedIfWord a.lookahead a.reserved
      if a.propagates then f.add a.item (a.lookahead.union after) (max own reserved)
      else f.add a.item a.lookahead own) f
  | _ => f

/-- All items of a state with the given kernel, in order. -/
def closure (kernel : Kernel) : Array Entry :=
  let start : Filling := ⟨#[], Array.replicate b.table.items.size 0⟩
  let filled := kernel.foldl (fun f e =>
    match (b.item e.item).expansion with
    | [] => b.addEntry f e
    | items => items.foldl (fun f i => b.addEntry f { e with item := i }) f) start
  filled.entries.qsort fun x y => x.item < y.item

/-! ## Precedences -/

/-- Whether an entry of a chain speaks of a precedence or of one of the given constructs. -/
def speaksOf (entry : String ⊕ String) (p : Option Precedence) (owners : List Nat) : Bool :=
  match entry with
  | .inl name => p == some (.named name)
  | .inr name => owners.any fun v => b.names.getD v "" == name

/-- The comparison that a chain gives: which side it speaks of first, if it speaks of both. -/
def compareInChain (l : Option Precedence) (ls : List Nat) (r : Option Precedence) (rs : List Nat) :
    Bool → Bool → List (String ⊕ String) → Option Ordering
  | _, _, [] => none
  | sawLeft, sawRight, entry :: rest =>
    if b.speaksOf entry l ls then
      if sawRight then some .lt else compareInChain l ls r rs true sawRight rest
    else if b.speaksOf entry r rs then
      if sawLeft then some .gt else compareInChain l ls r rs sawLeft true rest
    else compareInChain l ls r rs sawLeft sawRight rest

/-- The rank of a precedence; no precedence has the neutral rank. -/
def rankOf? : Option Precedence → Option Int
  | some (.rank n) => some n
  | _ => none

/-- Compares two precedences, each of given constructs. Ranks count unless both are neutral; then
the chains decide. -/
def comparePrecedence (l : Option Precedence) (ls : List Nat) (r : Option Precedence)
    (rs : List Nat) : Ordering :=
  let chains := (b.precedences.findSome? (b.compareInChain l ls r rs false false)).getD .eq
  match rankOf? l, rankOf? r with
  | some m, some n => if m ≠ 0 ∨ n ≠ 0 then compare m n else chains
  | some m, none => if r.isNone && m ≠ 0 then compare m 0 else chains
  | none, some n => if l.isNone && n ≠ 0 then compare 0 n else chains
  | none, none => chains

/-! ## Actions -/

/-- What is known of the reductions at a terminal. -/
structure Reductions where
  /-- The precedence of the last one. -/
  precedence : Option Precedence := none
  /-- Their constructs. -/
  owners : List Nat := []
  /-- Whether one of them groups on the left. -/
  groupsLeft : Bool := false
  /-- Whether one of them groups on the right. -/
  groupsRight : Bool := false
  /-- Whether one of them does not say. -/
  silent : Bool := false
  deriving Inhabited

/-- The actions of a state while they are being found. -/
structure Draft where
  /-- The actions at each terminal. -/
  actions : Array (List Action)
  /-- What is known of the reductions at each terminal. -/
  reductions : Array Reductions
  /-- The terminals at which several actions are possible. -/
  contested : BitSet := {}

/-- The action that completes an item. -/
def completion (item : Item) : Action :=
  match item.owner with
  | none => .accept
  | some v => .reduce v item.dot item.weight item.shape

/-- Notes the completion of an item in what is known at a terminal. -/
def Reductions.note (r : Reductions) (item : Item) (owner : Nat) : Reductions :=
  { precedence := item.precedence
    owners := if r.owners.contains owner then r.owners else r.owners ++ [owner]
    groupsLeft := r.groupsLeft || item.assoc == some .left
    groupsRight := r.groupsRight || item.assoc == some .right
    silent := r.silent || item.assoc.isNone }

/-- Adds the completion of an item at a terminal. A stronger one displaces what is there, a weaker
one is left out. -/
def addCompletion (d : Draft) (item : Item) (t : Nat) : Draft :=
  let owner := item.owner.getD b.names.size
  let known := d.reductions.getD t {}
  let action := completion item
  let put := fun (d : Draft) (known : Reductions) (actions : List Action) =>
    { d with
      actions := d.actions.set! t actions
      reductions := d.reductions.set! t (known.note item owner) }
  match d.actions.getD t [] with
  | [] => put d known [action]
  | there =>
    match b.comparePrecedence item.precedence [owner] known.precedence known.owners with
    | .gt =>
      put { d with contested := d.contested.diff (BitSet.empty.insert t) } {} [action]
    | .eq => put { d with contested := d.contested.insert t } known (there ++ [action])
    | .lt => d

/-- Adds the completions of an entry. -/
def addCompletions (d : Draft) (e : Entry) : Draft :=
  let item := b.item e.item
  match item.next with
  | .done => e.lookahead.toList.foldl (fun d t => b.addCompletion d item t) d
  | _ => d

/-- Adds a shift at a terminal. -/
def Draft.addShift (d : Draft) (t state : Nat) : Draft :=
  let there := d.actions.getD t []
  { d with
    actions := d.actions.set! t (there ++ [.shift state false])
    contested := if there.isEmpty then d.contested else d.contested.insert t }

/-- An item that has a part in a conflict, and, if it goes on with the terminal, its precedence. -/
def partIn (t : Nat) (e : Entry) : Option (Item × Bool) :=
  let item := b.item e.item
  match item.next with
  | .done => if e.lookahead.contains t && item.owner.isSome then some (item, false) else none
  | next =>
    if item.dot > 0 && (b.edges.firstOf next).contains t then some (item, true) else none

/-- Whether all items belong to one construct that was made for a repetition. -/
def isOneRepetition (items : List Item) : Bool :=
  match items with
  | [] => false
  | i :: rest =>
    match i.owner with
    | none => false
    | some v => b.auxiliary.getD v false && rest.all (·.owner == some v)

/-- Settles a terminal at which a shift, the last of the actions, competes with reductions: the
stronger side wins; between equals, grouping on one side alone decides; else both stay. -/
def settleShift (parts : List (Item × Bool)) (known : Reductions) (actions : List Action) :
    List Action :=
  let reductions := actions.dropLast
  let shift := (actions.getLast?).toList
  let orders := (parts.filter (·.2)).map fun (item, _) =>
    b.comparePrecedence item.precedence item.owner.toList known.precedence known.owners
  let stronger := orders.contains .gt
  let weaker := orders.contains .lt
  if stronger && !weaker then shift
  else if weaker && !stronger then reductions
  else if !weaker && !stronger then
    if known.groupsLeft && !known.silent && !known.groupsRight then reductions
    else if known.groupsRight && !known.silent && !known.groupsLeft then shift
    else actions
  else actions

/-- Marks the shift of a repetition. -/
def markRepetition (actions : List Action) : List Action :=
  actions.map fun
    | .shift s _ => .shift s true
    | a => a

/-- Settles a contested terminal. -/
def settle (entries : Array Entry) (d : Draft) (t : Nat) : Draft :=
  let actions := d.actions.getD t []
  let parts := entries.toList.filterMap (b.partIn t)
  match actions.getLast? with
  | some (.shift _ _) =>
    let settled :=
      if b.isOneRepetition (parts.map (·.1)) then markRepetition actions
      else b.settleShift parts (d.reductions.getD t {}) actions
    { d with actions := d.actions.set! t settled }
  | _ => d

/-- The list of words that are reserved in a state: the strictest one of its items that a word may
come next in. -/
def reservedIn (entries : Array Entry) : Option Nat :=
  entries.foldl (fun best e =>
    let item := b.item e.item
    let here := match item.next with
      | .terminal t => if t = b.edges.word then some item.reserved else none
      | .construct _ => none
      | .done => if e.lookahead.contains b.edges.word then some e.reserved else none
    match here, best with
    | none, _ => best
    | some n, none => some n
    | some n, some m => some (max n m)) none

/-! ## The automaton -/

/-- The states that are known so far. -/
structure Drawing where
  /-- The kernels of all states. -/
  kernels : Array Kernel
  /-- The cores of all states. -/
  cores : Array Nat
  /-- The states by their kernels. -/
  numberOf : Std.HashMap Kernel Nat
  /-- The cores by the items of the kernels. -/
  coreOf : Std.HashMap (Array Nat) Nat

/-- The state with a kernel, which is entered if it is new. -/
def Drawing.enter (d : Drawing) (kernel : Kernel) : Nat × Drawing :=
  match d.numberOf[kernel]? with
  | some s => (s, d)
  | none =>
    let items := kernel.map (·.item)
    let s := d.kernels.size
    let (core, coreOf) := match d.coreOf[items]? with
      | some c => (c, d.coreOf)
      | none => (d.coreOf.size, d.coreOf.insert items d.coreOf.size)
    (s,
      { kernels := d.kernels.push kernel
        cores := d.cores.push core
        numberOf := d.numberOf.insert kernel s
        coreOf })

/-- Joins an entry to a kernel whose entries have ascending items, but for those that are equal. -/
def joinKernel (kernel : Kernel) (e : Entry) : Kernel :=
  match kernel.findIdx? (·.item == e.item) with
  | none => kernel.push e
  | some i => kernel.modify i fun old =>
      { old with
        lookahead := old.lookahead.union e.lookahead
        reserved := max old.reserved e.reserved }

/-- The kernels to which terminals and constructs lead. Terminals come first, external tokens before
the others. -/
structure Ways where
  /-- The kernel for each terminal. -/
  terminals : Array Kernel
  /-- The kernel for each construct. -/
  constructs : Array Kernel

/-- The kernels to which the entries of a state lead. -/
def waysFrom (entries : Array Entry) : Ways :=
  entries.foldl (fun w e =>
    let item := b.item e.item
    let moved := { e with item := item.successor }
    match item.next with
    | .done => w
    | .terminal t => { w with terminals := w.terminals.modify t (joinKernel · moved) }
    | .construct v => { w with constructs := w.constructs.modify v (joinKernel · moved) })
    ⟨Array.replicate b.terminals #[], Array.replicate b.names.size #[]⟩

/-- A kernel with its entries in order. -/
def sortKernel (kernel : Kernel) : Kernel := kernel.qsort fun x y => x.item < y.item

/-- The terminals in the order in which their states are entered. -/
def terminalOrder (tokens : Nat) : List Nat :=
  (List.range b.terminals).drop tokens ++ List.range tokens

/-- Makes the state with a kernel, and enters the states to which it leads. -/
def makeState (order : List Nat) (core : Nat) (kernel : Kernel) (d : Drawing) : State × Drawing :=
  let entries := b.closure kernel
  let draft : Draft := ⟨Array.replicate b.terminals [], Array.replicate b.terminals {}, {}⟩
  let draft := entries.foldl b.addCompletions draft
  let ways := b.waysFrom entries
  let (draft, d) := order.foldl (fun (draft, d) t =>
    let kernel := ways.terminals.getD t #[]
    if kernel.isEmpty then (draft, d)
    else
      let (s, d) := d.enter (sortKernel kernel)
      (draft.addShift t s, d)) (draft, d)
  let (gotos, d) := ways.constructs.zipIdx.foldl (fun (gotos, d) (kernel, v) =>
    if kernel.isEmpty then (gotos, d)
    else
      let (s, d) := d.enter (sortKernel kernel)
      (gotos.set! v s, d)) (Array.replicate b.names.size 0, d)
  let draft := draft.contested.toList.foldl (b.settle entries) draft
  let actions := b.extras.foldl (fun actions t =>
    if (actions.getD t []).isEmpty then actions.set! t [.shiftExtra] else actions) draft.actions
  ({ actions, gotos, reserved := b.reservedIn entries, core }, d)

/-- Makes states until none is left to make, in the order in which they were entered. -/
def makeStates (order : List Nat) : Nat → Array State → Drawing → Array State
  | 0, states, _ => states
  | fuel + 1, states, d =>
    match d.kernels[states.size]? with
    | none => states
    | some kernel =>
      let (state, d) := b.makeState order (d.cores.getD states.size 0) kernel d
      makeStates order fuel (states.push state) d

/-- More states than any automaton of this kind has. -/
def stateLimit : Nat := 60000

/-- The states of the automaton. State 0, which is empty, is for faults; state 1 is the start. -/
def states (tokens : Nat) : Array State :=
  let start : Entry := ⟨b.table.start, BitSet.empty.insert (b.terminals - 1), 0⟩
  let d : Drawing := ⟨#[], #[], ∅, ∅⟩
  let d := (d.enter #[]).2
  let d := (d.enter #[start]).2
  b.makeStates (b.terminalOrder tokens) stateLimit #[] d

end Blueprint

end Diagnosis.Automaton
