import Diagnosis.Automaton.Item

/-!
# Terminals at the edges of constructs

Which terminals a construct can begin and end with, and what an item that expects a construct adds
to a state: the items at the starts of the construct's productions and of the constructs these begin
with, each with the terminals that may follow it.
-/

namespace Diagnosis.Automaton

open Diagnosis.Grammar

/-- The terminals that each construct can begin and end with. -/
structure Edges where
  /-- The terminals at the start of each construct. -/
  first : Array BitSet
  /-- The terminals at the end of each construct. -/
  last : Array BitSet
  /-- For each construct, the strictest list of reserved words at its start. -/
  reserved : Array Nat
  /-- The number of the token that words are. -/
  word : Nat

/-- The terminals at one edge of a step. -/
def edgeOf (l : Language) (found : Array BitSet) (t : Step) : BitSet :=
  match nextOf l t.symbol with
  | .terminal i => BitSet.empty.insert i
  | .construct v => found.getD v {}
  | .done => {}

/-- One more round of `edgeSets`. -/
def edgeRound (l : Language) (edge : List Step → Option Step) (found : Array BitSet) :
    Array BitSet :=
  l.phrases.zipIdx.map fun (phrase, v) =>
    phrase.productions.foldl (fun s p =>
      match edge p.steps with
      | some t => s.union (edgeOf l found t)
      | none => s) (found.getD v {})

/-- The terminals at one edge of each construct. Each round reaches one step deeper, and no way to
an edge is longer than there are constructs; once nothing changes, nothing will. -/
def edgeSets (l : Language) (edge : List Step → Option Step) : Array BitSet :=
  let rec go : Nat → Array BitSet → Array BitSet
    | 0, found => found
    | rounds + 1, found =>
      let next := edgeRound l edge found
      if next == found then found else go rounds next
  go l.phrases.size (Array.replicate l.phrases.size {})

/-- One more round of `reservedAtStart`. -/
def reservedRound (l : Language) (found : Array Nat) : Array Nat :=
  l.phrases.zipIdx.map fun (phrase, v) =>
    phrase.productions.foldl (fun n p =>
      match p.steps.head? with
      | none => n
      | some t =>
        match t.symbol with
        | .construct w => max n (max t.reserved (found.getD w 0))
        | _ => max n t.reserved) (found.getD v 0)

/-- The strictest list of reserved words at the start of each construct. -/
def reservedAtStart (l : Language) : Array Nat :=
  let rec go : Nat → Array Nat → Array Nat
    | 0, found => found
    | rounds + 1, found =>
      let next := reservedRound l found
      if next == found then found else go rounds next
  go l.phrases.size (Array.replicate l.phrases.size 0)

/-- The edges of the constructs of a language. -/
def Edges.of (l : Language) : Edges :=
  { first := edgeSets l List.head?
    last := edgeSets l List.getLast?
    reserved := reservedAtStart l
    word := l.word }

namespace Edges

variable (e : Edges)

/-- The terminals that the next symbol of an item can begin with. -/
def firstOf : Next → BitSet
  | .done => {}
  | .terminal t => BitSet.empty.insert t
  | .construct v => e.first.getD v {}

/-- The terminals that a symbol can end with. -/
def lastOf : Next → BitSet
  | .done => {}
  | .terminal t => BitSet.empty.insert t
  | .construct v => e.last.getD v {}

/-- The list of reserved words at a symbol, where the symbol itself is asked for list `n`. -/
def reservedFirst (n : Nat) : Next → Nat
  | .done => 0
  | .terminal t => if t = e.word then n else 0
  | .construct v => e.reserved.getD v 0

end Edges

/-- An item that a construct adds to a state. -/
structure Addition where
  /-- The item. -/
  item : Nat
  /-- The terminals that may follow it, whatever follows the construct. -/
  lookahead : BitSet
  /-- The list of words that are reserved after it. -/
  reserved : Nat
  /-- Whether it may also be followed by what follows the construct. -/
  propagates : Bool
  deriving Inhabited

/-- What is known of a construct that another one begins with. -/
structure Reached where
  /-- The terminals that may follow it. -/
  lookahead : BitSet := {}
  /-- The list of words that are reserved after it. -/
  reserved : Nat := 0
  /-- Whether it may be followed by what follows the other one. -/
  propagates : Bool := false
  deriving BEq, Inhabited

/-- Both sources of knowledge. -/
def Reached.join (a b : Reached) : Reached :=
  ⟨a.lookahead.union b.lookahead, max a.reserved b.reserved, a.propagates || b.propagates⟩

/-- What a production that begins with a construct says of that construct. -/
def reachedBy (l : Language) (e : Edges) (from_ : Reached) (p : Production) :
    Option (Nat × Reached) :=
  match p.steps with
  | t :: rest =>
    match t.symbol with
    | .construct w =>
      match rest with
      | [] => some (w, from_)
      | u :: _ =>
        let next := nextOf l u.symbol
        some (w, ⟨e.firstOf next, e.reservedFirst u.reserved next, false⟩)
    | _ => none
  | [] => none

/-- Follows what is known to what it entails, until nothing new comes. -/
def reachFrom (l : Language) (e : Edges) : Nat → List (Nat × Reached) → Array (Option Reached) →
    Array (Option Reached)
  | 0, _, found => found
  | _ + 1, [], found => found
  | fuel + 1, (v, new) :: rest, found =>
    let old := (found.getD v none).getD {}
    let joined := old.join new
    if joined == old && (found.getD v none).isSome then reachFrom l e fuel rest found
    else
      let more := (((l.phrases[v]?).map (·.productions)).getD []).filterMap (reachedBy l e joined)
      reachFrom l e fuel (more ++ rest) (found.set! v (some joined))

/-- What a construct that is expected adds to a state. -/
def additionsOf (l : Language) (e : Edges) (table : ItemTable) (v : Nat) : Array Addition :=
  let found := reachFrom l e 100000 [(v, ⟨{}, 0, true⟩)] (Array.replicate l.phrases.size none)
  (found.zipIdx.foldl (fun (acc : Array Addition × List Nat) (r, w) =>
    match r with
    | none => acc
    | some r =>
      if l.inlined.contains (.construct w) then acc
      else (table.initial.getD w []).foldl (fun (adds, seen) item =>
        if seen.contains item then (adds, seen)
        else (adds.push ⟨item, r.lookahead, r.reserved, r.propagates⟩, item :: seen)) acc)
    (#[], [])).1

end Diagnosis.Automaton
