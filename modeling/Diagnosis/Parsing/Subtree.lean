import Diagnosis.Parsing.Input
import Diagnosis.Parsing.Table

/-!
# Subtrees

What the parser builds. A `Subtree` is a terminal with the blanks before it, or a construct with its
parts. Hidden constructs are still there; `Output` leaves them out.

Where the text is faulty, a subtree has a cost. Of two ways to read a text, the parser takes the one
that costs less. Skipped text costs by the character, by the line and by the construct; a token that
had to be supposed costs a fixed amount.
-/

namespace Diagnosis.Parsing

open Diagnosis.Grammar Diagnosis.Automaton

/-- What a subtree stands for. -/
inductive Kind where
  /-- A terminal. -/
  | terminal (t : Nat)
  /-- A construct. -/
  | construct (v : Nat)
  /-- Text that fits no construct. -/
  | fault
  /-- Part of a text that fits no construct. -/
  | faultPart
  deriving BEq, DecidableEq, Inhabited, Repr

namespace Cost

/-- The cost of a stretch of skipped text. -/
def recovery : Nat := 500

/-- The cost of a token that had to be supposed, beside `recovery`. -/
def missing : Nat := 110

/-- The cost of a construct in skipped text. -/
def tree : Nat := 100

/-- The cost of a byte of skipped text. -/
def byte : Nat := 1

/-- The cost of a line that ends in skipped text. -/
def line : Nat := 30

/-- The cost of skipping the text between two offsets. -/
def between (input : Input) (a b : Nat) : Nat := (b - a) * byte + input.linesBetween a b * line

end Cost

/-- A part of a text that has been parsed. -/
structure Subtree where
  /-- What it stands for. -/
  kind : Kind
  /-- The offset at which the blanks before it begin. -/
  origin : Nat
  /-- The offset at which it begins. -/
  start : Nat
  /-- The offset at which it ends. -/
  stop : Nat
  /-- Its parts. -/
  children : List Subtree := []
  /-- The shape of the production. -/
  shape : Nat := 0
  /-- Whether it appears in trees. -/
  isVisible : Bool
  /-- Whether it stands outside of the constructs around it. -/
  isExtra : Bool := false
  /-- Whether it is a token that the text lacks. -/
  isMissing : Bool := false
  /-- Whether its text is that of a keyword. -/
  isKeyword : Bool := false
  /-- What the faults in it cost. -/
  faults : Nat := 0
  /-- How much it is preferred over other ways to read the text. -/
  weight : Int := 0
  /-- The number of nodes below it that appear in trees. -/
  visibleBelow : Nat := 0
  /-- The number of its children in trees. -/
  visibleChildren : Nat := 0
  deriving Inhabited

namespace Kind

/-- Whether it stands for text that fits no construct. -/
def isFaulty : Kind → Bool
  | fault => true
  | faultPart => true
  | _ => false

/-- How a kind appears in trees. -/
def face (t : Table) : Kind → Face
  | terminal i => t.terminalFaces.getD i default
  | construct v => t.constructFaces.getD v default
  | fault => ⟨"ERROR", true, true⟩
  | faultPart => ⟨"_ERROR", false, false⟩

/-- The place of a kind in the order of symbols: terminals, constructs, faults. -/
def place (t : Table) : Kind → Nat
  | terminal i => t.places.getD i 0
  | construct v => t.places.size + v
  | faultPart => t.places.size + t.constructFaces.size
  | fault => t.places.size + t.constructFaces.size + 1

end Kind

namespace Subtree

/-- What a subtree costs. -/
def cost (s : Subtree) : Nat := if s.isMissing then Cost.missing + Cost.recovery else s.faults

/-- The number of nodes that a subtree adds to a tree. -/
def nodeCount (s : Subtree) : Nat :=
  s.visibleBelow + (if s.isVisible then 1 else 0) + (if s.kind == .faultPart then 1 else 0)

/-- The number of bytes of a subtree, the blanks before it included. -/
def width (s : Subtree) : Nat := s.stop - s.origin

/-- A terminal. -/
def leaf (t : Table) (kind : Kind) (origin start stop : Nat) (isKeyword : Bool) : Subtree :=
  { kind, origin, start, stop, isKeyword
    isVisible := (kind.face t).isVisible
    isExtra := kind == .terminal t.finish }

/-- What a child costs its parent where the parent stands for skipped text. -/
def skippedCost (c : Subtree) : Nat :=
  if c.isExtra || (c.kind == .fault && c.children.isEmpty) then 0
  else if c.isVisible then Cost.tree
  else if c.children.isEmpty then 0
  else Cost.tree * c.visibleChildren

/-- Adds up what the children mean for their parent. `step` counts the children that are no extras.
-/
def addChildren (t : Table) (aliases : Array (Option Alias)) (parent : Subtree) :
    Nat → List Subtree → Subtree
  | _, [] => parent
  | step, c :: rest =>
    let isRenamed := !c.isExtra && c.kind != .terminal t.finish && (aliases.getD step none).isSome
    let appears := isRenamed || c.isVisible
    let shown := if appears then 1 else 0
    let below := if appears || c.children.isEmpty then 0 else c.visibleChildren
    let faults := parent.faults + (if c.kind == .faultPart then 0 else c.cost)
      + (if parent.kind.isFaulty then c.skippedCost else 0)
    addChildren t aliases
      { parent with
        stop := c.stop
        faults
        weight := parent.weight + c.weight
        visibleBelow := parent.visibleBelow + c.visibleBelow + shown
        visibleChildren := parent.visibleChildren + shown + below }
      (if c.isExtra then step else step + 1) rest

/-- A subtree with the given parts. -/
def ofChildren (t : Table) (input : Input) (kind : Kind) (children : List Subtree) (shape : Nat) :
    Subtree :=
  let first := children.head?
  let bare : Subtree :=
    { kind, children, shape
      origin := (first.map (·.origin)).getD 0
      start := (first.map (·.start)).getD 0
      stop := 0
      isVisible := (kind.face t).isVisible }
  let s := addChildren t (t.shapes.getD shape {}).aliases bare 0 children
  if kind.isFaulty then
    { s with faults := s.faults + Cost.recovery + Cost.between input s.start s.stop }
  else s

/-- Splits off the extras at the end of some subtrees. -/
def splitExtras (children : List Subtree) : List Subtree × List Subtree :=
  let ending := (children.reverse.takeWhile (·.isExtra)).reverse
  (children.take (children.length - ending.length), ending)

/-- Whether two subtrees can stand for one another on the stack. -/
def equivalent (a b : Subtree) : Bool :=
  a.kind == b.kind
    && ((a.cost > 0 && b.cost > 0)
      || (a.start - a.origin == b.start - b.origin && a.stop - a.start == b.stop - b.start
        && a.children.length == b.children.length && a.isExtra == b.isExtra))

mutual

/-- Compares two subtrees by their kinds and numbers of children, from the top. -/
def compare (t : Table) : Subtree → Subtree → Ordering
  | ⟨k, _, _, _, cs, _, _, _, _, _, _, _, _, _⟩, b =>
    (Ord.compare (k.place t) (b.kind.place t)).then
      ((Ord.compare cs.length b.children.length).then (compareAll t cs b.children))

/-- Compares subtrees one by one. -/
def compareAll (t : Table) : List Subtree → List Subtree → Ordering
  | [], _ => .eq
  | _, [] => .eq
  | a :: as, b :: bs => (compare t a b).then (compareAll t as bs)

end

/-- Whether the second of two subtrees for the same text is to be taken. -/
def prefersSecond (t : Table) (a b : Subtree) : Bool :=
  if b.cost != a.cost then b.cost < a.cost
  else if a.weight != b.weight then a.weight < b.weight
  else a.cost > 0 || compare t a b == .gt

end Subtree

end Diagnosis.Parsing
