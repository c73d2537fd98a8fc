import Diagnosis.Parsing.Machine

/-!
# Reading terminals

The next terminal depends on the state: only what the state expects is looked for, external tokens
first. Where nothing of that is there, everything that any state expects is looked for, and what is
no token at all is skipped.
-/

namespace Diagnosis.Parsing

open Diagnosis.Automaton

/-- What a recogniser has found. -/
structure Reading where
  /-- The terminal, if one is there. -/
  terminal : Option Nat
  /-- The offset at which it begins, after separators. -/
  start : Nat
  /-- The offset at which it ends. -/
  stop : Nat
  /-- The offset up to which the text was read. -/
  reached : Nat
  deriving Inhabited

/-- Reads the longest token from a state of a recogniser. `best` is the longest one so far. -/
def recognise (d : Dfa) (input : Input) (finish : Nat) :
    Nat → Nat → Nat → Nat → Option (Nat × Nat) → Reading
  | 0, _, p, start, _ => ⟨none, start, p, p⟩
  | fuel + 1, state, p, start, best =>
    let s := d.state state
    let best := match s.complete with
      | some t => some (t, p)
      | none => best
    let done : Reading := match best with
      | some (t, stop) => ⟨some t, start, stop, p⟩
      | none => ⟨none, start, p, p⟩
    if p ≥ input.size then if s.mayEnd then ⟨some finish, start, p, p⟩ else done
    else
      let (code, length) := input.codeAt p
      match d.step? s code with
      | none => done
      | some (next, isSeparator) =>
        let p := p + length
        recognise d input finish fuel next p (if isSeparator then p else start) best

namespace Setting

variable (e : Setting)

/-- Reads the longest token that a recogniser finds at an offset. -/
def readFrom (start p : Nat) : Reading :=
  let p := e.input.skipMark p
  recognise e.table.dfa e.input e.table.finish (e.input.size + 1) start p p none

/-- Whether a way has got any further since the last fault, going down from a node. -/
def hasAdvancedFrom (stack : Stack) (nodesAtFault : Nat) : Nat → Nat → Bool
  | 0, _ => false
  | fuel + 1, i =>
    let n := stack.node i
    match n.links with
    | ⟨below, some t⟩ :: _ =>
      if t.width > 0 then true
      else if n.nodeCount > nodesAtFault && t.cost == 0 then
        hasAdvancedFrom stack nodesAtFault fuel below
      else false
    | _ => false

/-- Whether a way has got any further since the last fault. -/
def hasAdvanced (m : Machine) (v : Nat) : Bool :=
  let h := m.head v
  (m.top v).cost == 0 || hasAdvancedFrom m.stack h.nodesAtFault (m.stack.size + 1) h.node

/-- Looks for an external token. An empty one is taken only where it leads somewhere. -/
def readExternal? (m : Machine) (v state : Nat) (isFaulty : Bool) (externals : BitSet) (p : Nat) :
    Option Reading :=
  if externals.isEmpty then none
  else match e.scan externals e.input (e.input.skipMark p) with
    | none => none
    | some (i, start, stop) =>
      let t := e.table.tokens + i
      let isIdle := isFaulty || !hasAdvanced m v || e.table.shiftTarget state t == state
      if stop ≤ p && isIdle then none else some ⟨some t, start, stop, stop⟩

/-- What has been found where a terminal was looked for. -/
inductive Found where
  /-- A terminal; whether it is an external token. -/
  | terminal (r : Reading) (isExternal : Bool)
  /-- No terminal in the text between two offsets. -/
  | skipped (start stop : Nat)

/-- Looks for a terminal, and skips what is none. `skipped` is the stretch that has been skipped. -/
def search (m : Machine) (v state : Nat) : Nat → Nat → Option (Nat × Nat) → Found
  | 0, p, skipped => .skipped ((skipped.map (·.1)).getD p) p
  | fuel + 1, p, skipped =>
    let found := fun (r : Reading) (isExternal : Bool) => match skipped with
      | some (a, b) => Found.skipped a b
      | none => .terminal r isExternal
    match e.readExternal? m v state true (e.table.mode 0).externals p with
    | some r => found r true
    | none =>
      let r := e.readFrom (e.table.lexStart 0) p
      if r.terminal.isSome then found r false
      else
        let (a, b) := skipped.getD (r.start, r.start)
        if r.reached ≠ b then search m v state fuel r.reached (some (a, r.reached))
        else if r.reached ≥ e.input.size then .skipped a b
        else
          let p := r.reached + (e.input.codeAt r.reached).2
          search m v state fuel p (some (a, p))

/-- Looks for a terminal that a state expects, and, if there is none, for any. -/
def find (m : Machine) (v state p : Nat) : Found :=
  let limit := 2 * e.input.size + 16
  if state = 0 then e.search m v state limit p none
  else match e.readExternal? m v state false (e.table.mode state).externals p with
    | some r => .terminal r true
    | none =>
      let r := e.readFrom (e.table.lexStart state) p
      if r.terminal.isSome then .terminal r false else e.search m v state limit p none

/-- The terminal that a word is: a keyword where the state has a use for that. Also whether it is
the text of a keyword at all. -/
def resolveWord (state : Nat) (r : Reading) : Nat × Bool :=
  let k := e.readFrom e.table.keywordStart r.start
  match k.terminal with
  | none => (e.table.word, false)
  | some t =>
    let isUsed := !(e.table.actions state t).isEmpty || e.table.isReserved state t
    (if k.stop = r.stop && isUsed then t else e.table.word, true)

/-- Reads the next terminal of a way. -/
def read (m : Machine) (v state : Nat) : Subtree :=
  let p := m.position v
  match e.find m v state p with
  | .skipped start stop => .leaf e.table .fault p start stop false
  | .terminal r isExternal =>
    let t := r.terminal.getD 0
    let (t, isKeyword) :=
      if !isExternal && t == e.table.word then e.resolveWord state r else (t, false)
    .leaf e.table (.terminal t) p r.start r.stop isKeyword

/-- Whether a terminal that was read for another state can be used in a state. -/
def canReuse (state : Nat) (r : Recent) : Bool :=
  match r.token.kind with
  | .terminal t =>
    !(e.table.actions state t).isEmpty && e.table.mode r.state == e.table.mode state
      && (t != e.table.word || (!r.token.isKeyword && r.state == state))
  | _ => false

/-- The next terminal of a way, which is read once only where that is possible. -/
def nextToken (v state : Nat) : Parse Subtree := do
  let m ← get
  let p := m.position v
  match m.recent with
  | some r =>
    if r.position = p && e.canReuse state r then return r.token
  | none => pure ()
  let token := e.read m v state
  modify fun m => { m with recent := some ⟨p, state, token⟩ }
  return token

end Setting

end Diagnosis.Parsing
