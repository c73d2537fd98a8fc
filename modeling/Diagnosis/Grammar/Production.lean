import Diagnosis.Grammar.Lexicon

/-!
# Productions

A production is one way to write a construct: a row of steps, each a symbol with what the rule says
of it. `Language.of` turns the rules of a grammar into productions.

* A part that may be repeated becomes a construct of its own: one part, or two repetitions in a row.
* A choice becomes several productions.
* Marks are spread over the steps below them. How strongly a step binds to the *next* step is said
  by the innermost mark that reaches beyond it.
-/

namespace Diagnosis.Grammar

/-- A symbol of a production. -/
structure Step where
  /-- The symbol. -/
  symbol : Symbol
  /-- How strongly the production binds after it. -/
  precedence : Option Precedence := none
  /-- How equals group after it. -/
  assoc : Option Assoc := none
  /-- Its other name in the tree. -/
  otherName : Option Alias := none
  /-- Its role in its parent. -/
  field : Option String := none
  /-- The number of the list of words that are reserved at it. -/
  reserved : Nat := 0
  deriving Repr, BEq, Inhabited

/-- One way to write a construct. -/
structure Production where
  /-- Its weight when several trees are possible. -/
  weight : Int := 0
  /-- Its symbols. -/
  steps : List Step := []
  deriving Repr, BEq, Inhabited

/-! ## Repetitions -/

/-- The constructs for repetitions that were made so far. -/
structure Repetitions where
  /-- The number of the next construct. -/
  next : Nat
  /-- The repeated parts and their constructs. -/
  known : List (Rule Symbol × Symbol) := []
  /-- The constructs made, the last one first. -/
  made : List Construct := []
  /-- The construct that is being looked at. -/
  current : String := ""
  /-- The repetitions made for it. -/
  count : Nat := 0

namespace Repetitions

/-- The construct for the repetition of a part. -/
def enter (part : Rule Symbol) : StateM Repetitions (Rule Symbol) :=
  modifyGet fun r =>
    match r.known.lookup part with
    | some s => (.ref s, r)
    | none =>
      let s := Symbol.construct r.next
      let name := r.current ++ "_repeat" ++ toString (r.count + 1)
      let c : Construct := ⟨name, .auxiliary, Rule.oneOf [.seq [.ref s, .ref s], part]⟩
      (.ref s,
        { r with
          next := r.next + 1
          known := (part, s) :: r.known
          made := c :: r.made
          count := r.count + 1 })

mutual

/-- Puts constructs in the place of repetitions. -/
def expand : Rule Symbol → StateM Repetitions (Rule Symbol)
  | .seq parts => return .seq (← expandAll parts)
  | .choice parts => return Rule.oneOf (← expandAll parts)
  | .many1 part => do enter (← expand part)
  | .marked m part => return .marked m (← expand part)
  | r => return r

/-- `expand` for each of several rules. -/
def expandAll : List (Rule Symbol) → StateM Repetitions (List (Rule Symbol))
  | [] => return []
  | r :: rs => return (← expand r) :: (← expandAll rs)

end

/-- The constructs without repetitions, and after them those for the repetitions. -/
def expandConstructs (constructs : List Construct) : List Construct :=
  let work : StateM Repetitions (List Construct) := constructs.mapM fun c => do
    modify fun r => { r with current := c.name, count := 0 }
    return { c with rule := ← expand c.rule }
  let (constructs, r) := work.run { next := constructs.length }
  constructs ++ r.made.reverse

end Repetitions

/-! ## Choices -/

mutual

/-- The rules without choices that a rule stands for. -/
def Rule.alternatives : Rule Symbol → List (Rule Symbol)
  | .seq parts => (rowAlternatives parts).map .seq
  | .choice parts => allAlternatives parts
  | .marked m part => (alternatives part).map (.marked m)
  | r => [r]

/-- All rows that take one alternative of each rule; the alternatives of the first rule change
slowest. -/
def Rule.rowAlternatives : List (Rule Symbol) → List (List (Rule Symbol))
  | [] => [[]]
  | r :: rs =>
    let rows := rowAlternatives rs
    (alternatives r).flatMap fun a => rows.map (a :: ·)

/-- The alternatives of all rules. -/
def Rule.allAlternatives : List (Rule Symbol) → List (Rule Symbol)
  | [] => []
  | r :: rs => alternatives r ++ allAlternatives rs

end

/-! ## Marks -/

/-- What the marks around a part say of it. -/
structure Context where
  /-- How strongly it binds. -/
  precedence : Option Precedence := none
  /-- How equals group. -/
  assoc : Option Assoc := none
  /-- Another name for it. -/
  otherName : Option Alias := none
  /-- Its role. -/
  field : Option String := none
  /-- The number of its list of reserved words. -/
  reserved : Nat := 0
  deriving Inhabited

/-- The context below a mark. -/
def Context.below (reservedNames : List String) (m : Mark) (c : Context) : Context :=
  { precedence := m.precedence <|> c.precedence
    assoc := m.assoc <|> c.assoc
    otherName := m.otherName <|> c.otherName
    field := m.field <|> c.field
    reserved := ((m.reserved.bind fun name => reservedNames.idxOf? name)).getD c.reserved }

/-- Changes the last step. -/
def updateLast (f : Step → Step) : List Step → List Step
  | [] => []
  | [s] => [f s]
  | s :: rest => s :: updateLast f rest

/-- Gives the last step of a marked part the precedence that reaches beyond the mark. -/
def leaveMark (m : Mark) (outside : Context) (steps : List Step) : List Step :=
  updateLast (fun s =>
    { s with
      precedence := if m.precedence.isSome then outside.precedence else s.precedence
      assoc := if m.assoc.isSome then outside.assoc else s.assoc }) steps

mutual

/-- The steps of a rule without choices. `atEnd` says whether the rule ends the production. -/
def Rule.steps (reservedNames : List String) (c : Context) (atEnd : Bool) :
    Rule Symbol → List Step
  | .ref s => [⟨s, c.precedence, c.assoc, c.otherName, c.field, c.reserved⟩]
  | .seq parts => rowSteps reservedNames c atEnd parts
  | .marked m part =>
    let inner := steps reservedNames (c.below reservedNames m) atEnd part
    if atEnd then inner else leaveMark m c inner
  | _ => []

/-- The steps of a row of rules. -/
def Rule.rowSteps (reservedNames : List String) (c : Context) (atEnd : Bool) :
    List (Rule Symbol) → List Step
  | [] => []
  | r :: rs =>
    steps reservedNames c (atEnd && rs.isEmpty) r ++ rowSteps reservedNames c atEnd rs

end

/-- The weight of larger size, the first one if both are of the same size. -/
def heavier (a b : Int) : Int := if b.natAbs > a.natAbs then b else a

mutual

/-- The heaviest weight in a rule. -/
def Rule.weightIn (sofar : Int) : Rule Symbol → Int
  | .seq parts => rowWeight sofar parts
  | .marked m part => weightIn (heavier sofar (m.weight.getD 0)) part
  | _ => sofar

/-- The heaviest weight in a row of rules. -/
def Rule.rowWeight (sofar : Int) : List (Rule Symbol) → Int
  | [] => sofar
  | r :: rs => rowWeight (weightIn sofar r) rs

end

/-- The productions of a rule. -/
def Rule.productions (reservedNames : List String) (r : Rule Symbol) : List Production :=
  (r.alternatives.map fun a => ⟨a.weightIn 0, a.steps reservedNames {} true⟩).eraseDups

end Diagnosis.Grammar
