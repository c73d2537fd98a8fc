import Diagnosis.Parsing.Subtree

/-!
# The stack

The parser follows several ways to read a text at once. Their stacks share what they have in common:
a `Stack` is a graph of nodes, each of which links to those below it. A node with several links
stands where ways have met again.

`Stack.walk` goes down from a node along all links and collects the subtrees on the way. How far it
goes is up to its visitor.
-/

namespace Diagnosis.Parsing

/-- A link to a node below. -/
structure Link where
  /-- The node below. -/
  node : Nat
  /-- What lies between the nodes; nothing where text was given up. -/
  tree : Option Subtree
  deriving Inhabited

/-- The weight of what lies on a link. -/
def Link.weight (l : Link) : Int := (l.tree.map (·.weight)).getD 0

/-- A node of the stack. -/
structure StackNode where
  /-- The state of the automaton. -/
  state : Nat
  /-- The offset that has been reached. -/
  position : Nat
  /-- The links to nodes below. -/
  links : List Link
  /-- The cost of all that lies below. -/
  cost : Nat
  /-- The number of nodes of trees that lie below. -/
  nodeCount : Nat
  /-- The weight of all that lies below. -/
  weight : Int
  deriving Inhabited

/-- The nodes of all stacks. -/
abbrev Stack := Array StackNode

/-- The most links of a node. -/
def linkLimit : Nat := 8

/-- The most ways that are followed down at once. -/
def walkerLimit : Nat := 64

namespace Stack

variable (g : Stack)

/-- A node by its number. -/
def node (i : Nat) : StackNode := g.getD i default

/-- The stack with nothing on it, in the first state of the automaton. -/
def bottom : Stack := #[⟨1, 0, [], 0, 0, 0⟩]

/-- Puts a subtree, or a gap, on top of a node. -/
def push (below : Nat) (tree : Option Subtree) (state : Nat) : Nat × Stack :=
  let n := g.node below
  let new : StackNode := match tree with
    | none => { n with state, links := [⟨below, none⟩] }
    | some t =>
      { state
        position := t.stop
        links := [⟨below, some t⟩]
        cost := n.cost + t.cost
        nodeCount := n.nodeCount + t.nodeCount
        weight := n.weight + t.weight }
  (g.size, Array.push g new)

/-! ## Ways that meet -/

/-- Whether what lies on two links can stand for one another. -/
def sameTree (a b : Option Subtree) : Bool :=
  match a, b with
  | none, none => true
  | some a, some b => Subtree.equivalent a b
  | _, _ => false

/-- Whether two nodes are in the same state at the same offset, at the same cost. -/
def alike (i j : Nat) : Bool :=
  let a := g.node i
  let b := g.node j
  a.state == b.state && a.position == b.position && a.cost == b.cost

/-- Adds a link to a node that has room for it. -/
def appendLink (i : Nat) (link : Link) : Stack :=
  if linkLimit ≤ (g.node i).links.length then g
  else
    let below := g.node link.node
    let count := below.nodeCount + ((link.tree.map (·.nodeCount)).getD 0)
    let weight := below.weight + link.weight
    Array.modify g i fun n =>
      { n with
        links := n.links ++ [link]
        nodeCount := max n.nodeCount count
        weight := max n.weight weight }

/-- Puts a heavier subtree on a link that leads to the same node. -/
def replaceTree (i k : Nat) (link : Link) : Stack :=
  let below := g.node link.node
  Array.modify g i fun n =>
    if (n.links.getD k default).weight < link.weight then
      { n with links := n.links.set k link, weight := below.weight + link.weight }
    else n

/-- Adds a link to a node. Where the node has a link with the same subtree to a like node, the two
nodes below become one. -/
def addLink : Nat → Nat → Link → Stack → Stack
  | 0, _, _, g => g
  | fuel + 1, i, link, g =>
    if link.node = i then g
    else
      let meets := fun (x : Link) =>
        sameTree x.tree link.tree && (x.node == link.node || g.alike x.node link.node)
      match (g.node i).links.findIdx? meets with
      | none => g.appendLink i link
      | some k =>
        let x := (g.node i).links.getD k default
        if x.node = link.node then g.replaceTree i k link
        else
          let weight := (g.node link.node).weight + link.weight
          let g := (g.node link.node).links.foldl (fun g l => addLink fuel x.node l g) g
          Array.modify g i fun n => { n with weight := max n.weight weight }

/-- Gives one node the links of another. -/
def join (i j : Nat) : Stack :=
  (g.node j).links.foldl (fun g l => addLink g.size i l g) g

/-! ## Walking down -/

/-- One of the ways on which a walk goes down. -/
structure Walker where
  /-- The node that it has reached. -/
  node : Nat
  /-- The subtrees that it has passed, the lowest first. -/
  trees : List Subtree := []
  /-- The number of subtrees that it has passed, extras apart. -/
  count : Nat := 0
  deriving Inhabited

/-- What to do at a node. -/
structure Visit where
  /-- Whether the way down to here is one that was looked for. -/
  take : Bool
  /-- Whether to go no further. -/
  stop : Bool

/-- Goes down a link. -/
def Walker.follow (w : Walker) (l : Link) : Walker :=
  match l.tree with
  | none => { w with node := l.node, count := w.count + 1 }
  | some t => ⟨l.node, t :: w.trees, if t.isExtra then w.count else w.count + 1⟩

/-- The outcome of a walk. -/
structure Walk (σ : Type) where
  /-- The walkers that have moved on, the last first. -/
  moved : List Walker := []
  /-- The walkers that have come about where ways part, the last first. -/
  parted : List Walker := []
  /-- The walkers that have found what was looked for, the last first. -/
  found : List Walker := []
  /-- What the visitor remembers. -/
  memory : σ

/-- Moves one walker by one node, while `waiting` others have yet to move. -/
def moveWalker {σ : Type} (visit : Walker → σ → Visit × σ) (w : Walker) (waiting : Nat)
    (walk : Walk σ) : Walk σ :=
  let (v, memory) := visit w walk.memory
  let walk := { walk with memory, found := if v.take then w :: walk.found else walk.found }
  match (g.node w.node).links with
  | [] => walk
  | first :: others =>
    if v.stop then walk
    else
      let room := walkerLimit - (walk.moved.length + 1 + waiting + walk.parted.length)
      { walk with
        moved := w.follow first :: walk.moved
        parted := ((others.take room).map w.follow).reverse ++ walk.parted }

/-- Moves all walkers by one node. -/
def moveWalkers {σ : Type} (visit : Walker → σ → Visit × σ) : List Walker → Walk σ → Walk σ
  | [], walk => walk
  | w :: rest, walk => moveWalkers visit rest (g.moveWalker visit w rest.length walk)

/-- Moves walkers until none is left. -/
def walkFrom {σ : Type} (visit : Walker → σ → Visit × σ) : Nat → List Walker → List Walker → σ →
    List Walker × σ
  | 0, _, found, memory => (found.reverse, memory)
  | _ + 1, [], found, memory => (found.reverse, memory)
  | fuel + 1, walkers, found, memory =>
    let walk := g.moveWalkers visit walkers { found, memory }
    walkFrom visit fuel (walk.moved.reverse ++ walk.parted.reverse) walk.found walk.memory

/-- Goes down from a node along all links. No way down is longer than there are nodes. -/
def walk {σ : Type} (start : Nat) (visit : Walker → σ → Visit × σ) (memory : σ) :
    List Walker × σ :=
  g.walkFrom visit (g.size + 1) [⟨start, [], 0⟩] [] memory

/-- The ways down from a node along `count` subtrees. -/
def waysDown (start count : Nat) : List Walker :=
  (g.walk start (fun w () => (⟨w.count == count, w.count == count⟩, ())) ()).1

/-- The ways down from a node to the bottom. -/
def waysToBottom (start : Nat) : List Walker :=
  (g.walk start (fun w () => (⟨(g.node w.node).links.isEmpty, false⟩, ())) ()).1

/-- The first way down from a node along a single subtree for text that fits no construct. -/
def wayOverFault (start : Nat) : List Walker :=
  (g.walk start (fun w found =>
    match w.trees with
    | [] => (⟨false, false⟩, found)
    | t :: _ =>
      if !found && t.kind == .fault then (⟨true, true⟩, true) else (⟨false, true⟩, found)) false).1

/-- A state that lies below, and how far. -/
structure Depth where
  /-- The offset that had been reached. -/
  position : Nat
  /-- The number of subtrees above. -/
  depth : Nat
  /-- The state. -/
  state : Nat
  deriving Inhabited

/-- The greatest depth that is looked at. -/
def depthLimit : Nat := 16

/-- The states below a node, by depth. -/
def depths (start : Nat) : List Depth :=
  (g.walk start (fun w (seen : List Depth) =>
    let n := g.node w.node
    if depthLimit < w.count then (⟨false, true⟩, seen)
    else if (seen.takeWhile (w.count ≤ ·.depth)).any fun d =>
      d.depth == w.count && d.state == n.state then (⟨false, false⟩, seen)
    else (⟨false, false⟩, ⟨n.position, w.count, n.state⟩ :: seen)) []).2.reverse

end Stack

end Diagnosis.Parsing
