import Diagnosis.Parsing.Stack

/-!
# The parser's state

A `Machine` follows several ways to read a text. Each `Head` is the top of one of them: a node of
the stack, and whether the way is still followed. Ways that meet in one state become one.

`compareStandings` says which of two ways is more promising. A way that is much more promising makes
the parser give up the other one.
-/

namespace Diagnosis.Parsing

/-- Whether a way to read the text is followed. -/
inductive Status where
  /-- It is. -/
  | active
  /-- It waits at a fault. -/
  | paused
  /-- It is given up or complete. -/
  | halted
  deriving BEq, DecidableEq, Inhabited, Repr

/-- The top of a way to read the text. -/
structure Head where
  /-- The node of the stack. -/
  node : Nat
  /-- The number of nodes of trees at the last fault. -/
  nodesAtFault : Nat := 0
  /-- Whether it is followed. -/
  status : Status := .active
  /-- The terminal at which it is paused. -/
  lookahead : Option Subtree := none
  /-- The states below the place of a fault. -/
  depths : Option (List Stack.Depth) := none
  deriving Inhabited

/-- A terminal that has been read. -/
structure Recent where
  /-- The offset from which it was read. -/
  position : Nat
  /-- The state for which it was read. -/
  state : Nat
  /-- The terminal. -/
  token : Subtree
  deriving Inhabited

/-- The state of the parser. -/
structure Machine where
  /-- The nodes of all stacks. -/
  stack : Stack
  /-- The ways that are followed. -/
  heads : Array Head
  /-- The best complete tree so far. -/
  finished : Option Subtree := none
  /-- How often the text has been read to its end. -/
  completions : Nat := 0
  /-- The last terminal that has been read. -/
  recent : Option Recent := none
  deriving Inhabited

/-- The state of the parser at the start. -/
def Machine.start : Machine := { stack := Stack.bottom, heads := #[{ node := 0 }] }

/-- A recogniser of external tokens: given which of them are expected and an offset, the token,
where it begins, and where it ends. -/
abbrev ExternalScan := Automaton.BitSet → Input → Nat → Option (Nat × Nat × Nat)

/-- What stays the same while a text is parsed. -/
structure Setting where
  /-- What is known of the language. -/
  table : Table
  /-- The text. -/
  input : Input
  /-- The recogniser of external tokens. -/
  scan : ExternalScan

/-- A step of the parser. -/
abbrev Parse := StateM Machine

/-- The most ways that are followed for long. -/
def headLimit : Nat := 6

/-- How many more ways than that there may be for a short time. -/
def headOverflow : Nat := 4

namespace Machine

variable (m : Machine)

/-- A head by its number. -/
def head (v : Nat) : Head := m.heads.getD v default

/-- The node on top of a way. -/
def top (v : Nat) : StackNode := m.stack.node (m.head v).node

/-- The state in which a way is. -/
def state (v : Nat) : Nat := (m.top v).state

/-- The offset that a way has reached. -/
def position (v : Nat) : Nat := (m.top v).position

/-- Changes a head. -/
def updateHead (v : Nat) (f : Head → Head) : Machine := { m with heads := m.heads.modify v f }

/-- Gives up a way. -/
def removeHead (v : Nat) : Machine := { m with heads := m.heads.eraseIdxIfInBounds v }

/-- Marks a way as given up or complete. -/
def halt (v : Nat) : Machine := m.updateHead v fun h => { h with status := .halted }

/-- Puts a subtree, or a gap, on top of a way. -/
def push (v : Nat) (tree : Option Subtree) (state : Nat) : Machine :=
  let (n, stack) := m.stack.push (m.head v).node tree state
  let m := { m with stack }
  let count := (m.stack.node n).nodeCount
  m.updateHead v fun h =>
    { h with node := n, nodesAtFault := if tree.isNone then count else h.nodesAtFault }

/-- Puts subtrees on top of a way, all in one state. -/
def pushAll (v : Nat) (trees : List Subtree) (state : Nat) : Machine :=
  trees.foldl (fun m t => m.push v (some t) state) m

/-- Whether two ways have met. -/
def canMerge (v w : Nat) : Bool :=
  (m.head v).status == .active && (m.head w).status == .active
    && m.stack.alike (m.head v).node (m.head w).node

/-- Makes one way of two that have met, and says whether they have. -/
def merge (v w : Nat) : Bool × Machine :=
  if m.canMerge v w then
    let a := (m.head v).node
    let b := (m.head w).node
    let m := { m with stack := m.stack.join a b }
    let n := m.stack.node a
    let m :=
      if n.state = 0 then m.updateHead v fun h => { h with nodesAtFault := n.nodeCount } else m
    (true, m.removeHead w)
  else (false, m)

/-- Makes one way of `w` and the first of the given ways that has met with it. -/
def mergeFirst (w : Nat) (vs : List Nat) : Bool × Machine :=
  match vs.find? (m.canMerge · w) with
  | some v => m.merge v w
  | none => (false, m)

/-- Puts the head `v` in the place of the head `w`. -/
def renumber (v w : Nat) : Machine :=
  if v = w then m
  else
    let source := m.head v
    let target := m.head w
    let depths := source.depths.orElse fun _ => target.depths
    (m.updateHead w fun _ => { source with depths }).removeHead v

/-- Follows a way twice; gives the number of the second head. -/
def copyHead (v : Nat) : Nat × Machine :=
  (m.heads.size, { m with heads := m.heads.push { m.head v with depths := none } })

/-! ## Ways down -/

/-- A new head, with all ways down that lead to it. -/
structure Slice where
  /-- The head. -/
  head : Nat
  /-- The subtrees on the first way down. -/
  trees : List Subtree
  /-- The subtrees on the other ways down. -/
  others : List (List Subtree) := []
  deriving Inhabited

/-- Makes a head for the end of a way down, unless there is one already. -/
def addSlice (origin : Nat) (w : Stack.Walker) (slices : List Slice) (m : Machine) :
    List Slice × Machine :=
  match slices.findIdx? fun s => (m.head s.head).node == w.node with
  | some i => (slices.modify i fun s => { s with others := s.others ++ [w.trees] }, m)
  | none =>
    let new : Head := { node := w.node, nodesAtFault := (m.head origin).nodesAtFault }
    (slices ++ [⟨m.heads.size, w.trees, []⟩], { m with heads := m.heads.push new })

/-- Makes heads for the ends of ways down from the head `origin`. -/
def slicesOf (origin : Nat) (walkers : List Stack.Walker) : List Slice × Machine :=
  walkers.foldl (fun (slices, m) w => addSlice origin w slices m) ([], m)

/-- Takes `count` subtrees off a way; what is below becomes new heads. -/
def pop (v count : Nat) : List Slice × Machine :=
  m.slicesOf v (m.stack.waysDown (m.head v).node count)

/-- Takes everything off a way. -/
def popAll (v : Nat) : List Slice × Machine := m.slicesOf v (m.stack.waysToBottom (m.head v).node)

/-- Takes a subtree for text that fits no construct off the top of a way, if one is there. -/
def popFault (v : Nat) : Option Subtree × Machine :=
  let isFault := fun (l : Link) => (l.tree.map (·.kind == .fault)).getD false
  if (m.top v).links.any isFault then
    match m.slicesOf v (m.stack.wayOverFault (m.head v).node) with
    | ([], m) => (none, m)
    | (s :: _, m) => (s.trees.head?, m.renumber s.head v)
  else (none, m)

/-! ## Which way is more promising -/

/-- What a way costs so far. -/
def costOf (v : Nat) : Nat :=
  let h := m.head v
  let n := m.top v
  let hasGap := match n.links with
    | [] => true
    | l :: _ => l.tree.isNone
  n.cost + (if h.status == .paused || (n.state == 0 && hasGap) then Cost.recovery else 0)

/-- Lowers the count of nodes at the last fault to that of all nodes. -/
def settleCount (v : Nat) : Machine :=
  let count := (m.top v).nodeCount
  m.updateHead v fun h => { h with nodesAtFault := min h.nodesAtFault count }

/-- The number of nodes of trees since the last fault. -/
def nodesSinceFault (v : Nat) : Nat := (m.top v).nodeCount - (m.head v).nodesAtFault

/-- What speaks for and against a way. -/
structure Standing where
  /-- Its cost. -/
  cost : Nat
  /-- The number of nodes of trees since the last fault. -/
  nodes : Nat
  /-- Its weight. -/
  weight : Int
  /-- Whether it is at a fault. -/
  isFaulty : Bool
  deriving Inhabited

/-- What speaks for and against a way. -/
def standing (v : Nat) : Standing :=
  let isPaused := (m.head v).status == .paused
  { cost := m.costOf v + (if isPaused then Cost.tree else 0)
    nodes := m.nodesSinceFault v
    weight := (m.top v).weight
    isFaulty := isPaused || m.state v == 0 }

/-- Which of two ways is more promising. -/
inductive Preference where
  /-- The first, so much that the second is given up. -/
  | takeFirst
  /-- The first. -/
  | first
  /-- Neither. -/
  | neither
  /-- The second. -/
  | second
  /-- The second, so much that the first is given up. -/
  | takeSecond
  deriving BEq, DecidableEq, Inhabited, Repr

/-- The difference of costs that makes the parser give up a way. -/
def costGap : Nat := 1800

/-- Which of two ways is more promising. -/
def compareStandings (a b : Standing) : Preference :=
  if !a.isFaulty && b.isFaulty then if a.cost < b.cost then .takeFirst else .first
  else if a.isFaulty && !b.isFaulty then if b.cost < a.cost then .takeSecond else .second
  else if a.cost < b.cost then
    if (b.cost - a.cost) * (1 + a.nodes) > costGap then .takeFirst else .first
  else if b.cost < a.cost then
    if (a.cost - b.cost) * (1 + b.nodes) > costGap then .takeSecond else .second
  else if a.weight > b.weight then .first
  else if b.weight > a.weight then .second
  else .neither

/-- The heads other than `v` that are active and have reached its offset. -/
def rivals (v : Nat) : List Nat :=
  (List.range m.heads.size).filter fun i =>
    i != v && (m.head i).status == .active && m.position v ≤ m.position i

/-- Whether one of some ways is better than one with the given standing. -/
def hasBetterAmong (v : Nat) (here : Standing) : List Nat → Machine → Bool × Machine
  | [], m => (false, m)
  | i :: rest, m =>
    let m := m.settleCount i
    match compareStandings here (m.standing i) with
    | .takeSecond => (true, m)
    | .second => if m.canMerge i v then (true, m) else hasBetterAmong v here rest m
    | _ => hasBetterAmong v here rest m

/-- Whether the complete tree is at least as good as one of the given cost. -/
def isBeaten (cost : Nat) : Bool :=
  match m.finished with
  | some t => t.cost ≤ cost
  | none => false

/-- Whether the head `v` is not worth going on with at the given cost. -/
def hasBetter (v : Nat) (isFaulty : Bool) (cost : Nat) : Bool × Machine :=
  if m.isBeaten cost then (true, m)
  else
    let m := m.settleCount v
    hasBetterAmong v ⟨cost, m.nodesSinceFault v, (m.top v).weight, isFaulty⟩ (m.rivals v) m

end Machine

end Diagnosis.Parsing
