import Diagnosis.Automaton.BitSet
import Diagnosis.Grammar.Language

/-!
# Items

An item is a production with a mark at one of its steps: what comes before the mark has been read.
`ItemTable.of` numbers the items of a language in a fixed order and notes for each what the
construction of the automaton asks of it.

* Inlined constructs are taken out of productions step by step: an item whose mark stands before an
  inlined construct stands for the items in which the construct's productions replace it.
* What has been read matters only as far as it shows in the tree. So items that agree in that and in
  what is still to come are one item, although their productions differ.
-/

namespace Diagnosis.Automaton

open Diagnosis.Grammar

/-- What an item expects next. -/
inductive Next where
  /-- Nothing: the production is complete. -/
  | done
  /-- A terminal. -/
  | terminal (t : Nat)
  /-- A construct. -/
  | construct (v : Nat)
  deriving BEq, Repr, Inhabited

/-- A production of a construct; no construct for the start of the text. -/
structure Form where
  /-- The construct. -/
  owner : Option Nat
  /-- The production. -/
  production : Production
  deriving BEq, Repr, Inhabited

/-! ## Terminals -/

/-- The number of terminals of a language: tokens, external tokens, and the end of the text. -/
def terminalCount (l : Language) : Nat := l.tokens.size + l.externals.size + 1

/-- The number of the end of the text. -/
def finishIndex (l : Language) : Nat := l.tokens.size + l.externals.size

/-- What a symbol is as the next symbol of an item. -/
def nextOf (l : Language) : Symbol → Next
  | .token i => .terminal i
  | .external i => .terminal (l.tokens.size + i)
  | .finish => .terminal (finishIndex l)
  | .construct v => .construct v

/-! ## Inlining -/

/-- The steps of an inlined production in the place of a step. What the step says goes before what
they say, and their last step binds like it unless it says otherwise. -/
def graft (outer : Step) (inner : List Step) : List Step :=
  let steps := inner.map fun t =>
    { t with
      otherName := outer.otherName <|> t.otherName
      field := outer.field <|> t.field
      reserved := if outer.reserved = 0 then t.reserved else outer.reserved }
  updateLast (fun t =>
    { t with
      precedence := t.precedence <|> outer.precedence
      assoc := t.assoc <|> outer.assoc }) steps

/-- The productions of a construct. -/
def productionsOf (l : Language) : Symbol → List Production
  | .construct v => ((l.phrases[v]?).map (·.productions)).getD []
  | _ => []

/-- The productions with the inlined construct at step `i` replaced, until no inlined construct
stands there. -/
def inlineAt (l : Language) (i : Nat) : Nat → Production → List Production
  | 0, p => [p]
  | depth + 1, p =>
    match p.steps[i]? with
    | none => [p]
    | some t =>
      if l.inlined.contains t.symbol then
        (productionsOf l t.symbol).flatMap fun q =>
          inlineAt l i depth
            ⟨heavier p.weight q.weight, p.steps.take i ++ graft t q.steps ++ p.steps.drop (i + 1)⟩
      else [p]

/-- How deep inlined constructs may lie in each other. -/
def inlineDepth : Nat := 16

/-- The first step of a production at which an inlined construct stands. -/
def inlineStep? (l : Language) (p : Production) : Option Nat :=
  p.steps.findIdx? fun t => l.inlined.contains t.symbol

/-- The productions that replace a production when its mark comes to its first inlined construct. -/
def expansions (l : Language) (p : Production) : List Production :=
  match inlineStep? l p with
  | none => []
  | some i => (inlineAt l i inlineDepth p).eraseDups

/-- A list of productions and all that replace them. -/
def withExpansions (l : Language) : Nat → List Production → List Production
  | 0, ps => ps
  | depth + 1, ps =>
    match ps.flatMap (expansions l) with
    | [] => ps
    | more => (ps ++ withExpansions l depth more).eraseDups

/-- The productions of all constructs, and what replaces them. The first form is the whole text. -/
def formsOf (l : Language) : Array Form :=
  let start : Form := ⟨none, ⟨0, [{ symbol := .construct 0 }]⟩⟩
  let rest := l.phrases.toList.zipIdx.flatMap fun (phrase, v) =>
    (withExpansions l inlineDepth phrase.productions).map fun p => (⟨some v, p⟩ : Form)
  (start :: rest).toArray

/-! ## Fields of hidden constructs -/

/-- Whether a construct does not appear in trees by itself. -/
def isHidden (l : Language) (v : Nat) : Bool :=
  ((l.phrases[v]?).map (·.visibility != .named)).getD false

/-- One more round of `fieldedConstructs`. -/
def fieldRound (l : Language) (found : Array Bool) : Array Bool :=
  l.phrases.zipIdx.map fun (phrase, v) =>
    found.getD v false || phrase.productions.any fun p => p.steps.any fun t =>
      t.field.isSome || match t.symbol with
        | .construct w => isHidden l w && found.getD w false
        | _ => false

/-- For each construct, whether a part of it has a role. The parts of a hidden construct are parts
of what it stands in. -/
def fieldedConstructs (l : Language) : Array Bool :=
  (List.range l.phrases.size).foldl (fun found _ => fieldRound l found)
    (Array.replicate l.phrases.size false)

/-- Whether a step hands roles of its own parts on to the production. -/
def handsOn (l : Language) (fielded : Array Bool) (t : Step) : Bool :=
  match t.symbol with
  | .construct v => isHidden l v && fielded.getD v false
  | _ => false

/-! ## The order of items -/

/-- The texts that occur in keys, in order. -/
def textsOf (forms : Array Form) : Array String :=
  let texts := forms.toList.flatMap fun f => f.production.steps.flatMap fun t =>
    (t.otherName.map (·.name)).toList ++ t.field.toList
      ++ match t.precedence with
        | some (.named n) => [n]
        | _ => []
  (texts.mergeSort (· ≤ ·)).eraseDups.toArray

/-- The place of a text among the texts, from one. -/
def textRank (texts : Array String) (s : String) : Nat := ((texts.findIdx? (· == s)).getD 0) + 1

/-- The key of an alias. -/
def aliasKey (texts : Array String) : Option Alias → Nat
  | none => 0
  | some a => 2 * textRank texts a.name + if a.named then 1 else 0

/-- The key of a precedence. -/
def precedenceKey (texts : Array String) : Option Precedence → List Nat
  | none => [0, 0]
  | some (.rank n) => [1, (n + 1000).toNat]
  | some (.named s) => [2, textRank texts s]

/-- The key of an associativity. -/
def assocKey : Option Assoc → Nat
  | none => 0
  | some .left => 1
  | some .right => 2

/-- The key of a symbol. -/
def symbolKey (s : Symbol) : List Nat := [s.order.1, s.order.2]

/-- The key of a step that has been read. -/
def readKey (texts : Array String) (inherits : Bool) (t : Step) : List Nat :=
  [aliasKey texts t.otherName, (t.field.map (textRank texts)).getD 0]
    ++ if inherits then symbolKey t.symbol else []

/-- The key of a step that is still to come. -/
def openKey (texts : Array String) (t : Step) : List Nat :=
  symbolKey t.symbol ++ precedenceKey texts t.precedence
    ++ [assocKey t.assoc, aliasKey texts t.otherName, (t.field.map (textRank texts)).getD 0,
      t.reserved]

/-- The key of an item. Items are ordered by their keys, and items with one key are one. -/
def itemKey (l : Language) (fielded : Array Bool) (texts : Array String) (f : Form) (dot : Nat) :
    List Nat :=
  let steps := f.production.steps
  let before := steps.take dot
  let inherits := before.any (handsOn l fielded)
  let last := before.getLast?
  [dot, (f.owner).getD 1000000, (f.production.weight + 1000).toNat, steps.length]
    ++ precedenceKey texts (last.bind (·.precedence))
    ++ [assocKey (last.bind (·.assoc)), if inherits then 1 else 0]
    ++ before.flatMap (readKey texts inherits)
    ++ (steps.drop dot).flatMap (openKey texts)

/-- Whether a key comes before another or is equal to it. -/
def keyLe : List Nat → List Nat → Bool
  | [], _ => true
  | _ :: _, [] => false
  | a :: as, b :: bs => a < b || (a == b && keyLe as bs)

/-! ## The table -/

/-- What a complete production leaves in the tree: the names and roles of its steps. -/
structure Shape where
  /-- The other name of each step. -/
  aliases : Array (Option Alias) := #[]
  /-- The role of each step. -/
  fields : Array (Option String) := #[]
  /-- Whether no step has a name or a role, not even below a hidden construct. -/
  isPlain : Bool := true
  deriving BEq, Repr, Inhabited

/-- The shape that a production leaves. -/
def shapeOf (l : Language) (fielded : Array Bool) (p : Production) : Shape :=
  { aliases := (p.steps.map (·.otherName)).toArray
    fields := (p.steps.map (·.field)).toArray
    isPlain := p.steps.all fun t => t.otherName.isNone && t.field.isNone && !handsOn l fielded t }

/-- An item. -/
structure Item where
  /-- The construct; none for the start of the text. -/
  owner : Option Nat := none
  /-- The number of steps before the mark. -/
  dot : Nat := 0
  /-- The symbol after the mark. -/
  next : Next := .done
  /-- The list of words that are reserved at that symbol. -/
  reserved : Nat := 0
  /-- The symbol after the next one, with its list of reserved words. -/
  following : Option (Next × Nat) := none
  /-- The precedence of the last step that was read. -/
  precedence : Option Precedence := none
  /-- The associativity of the last step that was read. -/
  assoc : Option Assoc := none
  /-- The weight of the production. -/
  weight : Int := 0
  /-- The number of the shape of the production. -/
  shape : Nat := 0
  /-- The item with the mark one step further. -/
  successor : Nat := 0
  /-- The items that it stands for, if its next symbol is inlined. -/
  expansion : List Nat := []
  deriving Inhabited

/-- All items of a language. -/
structure ItemTable where
  /-- The items, in their order. -/
  items : Array Item
  /-- The item at the start of the text. -/
  start : Nat
  /-- For each construct, the items at the starts of its productions. Inlined constructs that come
  first in a production are replaced. -/
  initial : Array (List Nat)
  /-- The shapes of productions. The first one is plain. -/
  shapes : Array Shape

/-- The item of a form with its mark at `dot`. -/
def itemOf (l : Language) (shapes : Array Shape) (fielded : Array Bool)
    (numberOf : Form → Nat → Nat) (f : Form) (dot : Nat) : Item :=
  let steps := f.production.steps
  let last := (steps.take dot).getLast?
  { owner := f.owner
    dot
    next := ((steps[dot]?).map fun t => nextOf l t.symbol).getD .done
    reserved := ((steps[dot]?).map (·.reserved)).getD 0
    following := (steps[dot + 1]?).map fun t => (nextOf l t.symbol, t.reserved)
    precedence := last.bind (·.precedence)
    assoc := last.bind (·.assoc)
    weight := f.production.weight
    shape := (shapes.findIdx? (· == shapeOf l fielded f.production)).getD 0
    successor := if dot < steps.length then numberOf f (dot + 1) else 0
    expansion :=
      if inlineStep? l f.production == some dot then
        (expansions l f.production).map fun p => numberOf ⟨f.owner, p⟩ dot
      else [] }

/-- Sorted keys, each once. -/
def distinctKeys (keys : Array (List Nat)) : Array (List Nat) :=
  (keys.toList.mergeSort keyLe).foldl (fun acc k =>
    if acc.back? == some k then acc else acc.push k) #[]

/-- The place of a key among sorted keys. -/
def placeOfKey (keys : Array (List Nat)) (key : List Nat) : Nat → Nat → Nat → Nat
  | 0, lo, _ => lo
  | fuel + 1, lo, hi =>
    if lo < hi then
      let mid := (lo + hi) / 2
      if keyLe key (keys.getD mid []) then placeOfKey keys key fuel lo mid
      else placeOfKey keys key fuel (mid + 1) hi
    else lo

/-- Numbers the items of a language. -/
def ItemTable.of (l : Language) : ItemTable :=
  let fielded := fieldedConstructs l
  let forms := formsOf l
  let texts := textsOf forms
  let marked : Array (Form × Nat) :=
    forms.flatMap fun f => (Array.range (f.production.steps.length + 1)).map fun dot => (f, dot)
  let keyed := marked.map fun (f, dot) => (itemKey l fielded texts f dot, f, dot)
  let keys := distinctKeys (keyed.map (·.1))
  let numberOf := fun f dot => placeOfKey keys (itemKey l fielded texts f dot) 32 0 keys.size
  let shapes := ((({} : Shape) :: forms.toList.map fun f =>
    shapeOf l fielded f.production).eraseDups).toArray
  let items := keyed.foldl (fun items (_, f, dot) =>
    items.set! (numberOf f dot) (itemOf l shapes fielded numberOf f dot))
    (Array.replicate keys.size {})
  let initial := l.phrases.zipIdx.map fun (phrase, v) =>
    (phrase.productions.flatMap fun p =>
      let ps := if inlineStep? l p == some 0 then expansions l p else [p]
      ps.map fun q => numberOf ⟨some v, q⟩ 0).eraseDups
  { items
    start := numberOf ⟨none, ⟨0, [{ symbol := .construct 0 }]⟩⟩ 0
    initial
    shapes }

end Diagnosis.Automaton
