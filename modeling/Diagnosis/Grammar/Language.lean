import Diagnosis.Grammar.Production

/-!
# Languages

A `Language` is a grammar made ready for the automaton: constructs with their productions, tokens,
and the sets of symbols that are treated in special ways.

A symbol that has another name at every place where it occurs takes the commonest of those names as
its own. Then the name need not be said again at each place, and productions that differ in it alone
become one.
-/

namespace Diagnosis.Grammar

/-- A construct and the ways to write it. -/
structure Phrase where
  /-- Its name. -/
  name : String
  /-- How it appears in trees. -/
  visibility : Visibility
  /-- The ways to write it. -/
  productions : List Production
  deriving Repr, Inhabited

/-- A grammar made ready for the automaton. -/
structure Language where
  /-- The constructs. -/
  phrases : Array Phrase
  /-- The tokens. -/
  tokens : Array Token
  /-- The external tokens. -/
  externals : Array External
  /-- What separates tokens. -/
  separators : List (Rule Symbol)
  /-- Symbols that may stand between any two tokens. -/
  extras : List Symbol
  /-- The number of the token that words are. -/
  word : Nat
  /-- The constructs that stand for others. -/
  supertypes : List Symbol
  /-- The constructs whose productions are put in place of every reference. -/
  inlined : List Symbol
  /-- The tokens of each list of reserved words. -/
  reserved : Array (List Nat)
  /-- The names that symbols have everywhere. -/
  ownAliases : List (Symbol × Alias)
  /-- Chains of precedences and constructs, the strongest first. -/
  precedences : List (List (String ⊕ String))
  deriving Inhabited

/-! ## Names that symbols have everywhere -/

/-- The steps of all productions, those of inlined constructs apart. -/
def countedSteps (inlined : List Symbol) (phrases : List Phrase) : List Step :=
  (phrases.flatMap fun p => p.productions.flatMap (·.steps)).filter
    (!inlined.contains ·.symbol)

/-- The commonest of several names, of equally common ones the first. -/
def commonest (names : List Alias) : Option Alias :=
  names.eraseDups.foldl (fun best a =>
    match best with
    | none => some a
    | some b => if names.count b < names.count a then some a else some b) none

/-- The other name that a symbol has at each of the steps, if it has one everywhere. -/
def ownAlias? (extras : List Symbol) (steps : List Step) (s : Symbol) : Option Alias :=
  let here := (steps.filter (·.symbol == s)).map (·.otherName)
  if extras.contains s || here.any (·.isNone) then none else commonest (here.filterMap id)

/-- The own names of all symbols. -/
def ownAliasesOf (inlined extras : List Symbol) (phrases : List Phrase) :
    List (Symbol × Alias) :=
  let steps := countedSteps inlined phrases
  ((steps.map (·.symbol)).eraseDups).filterMap fun s =>
    (ownAlias? extras steps s).map (s, ·)

/-- Whether another production needs the name `a` to be said at the step with index `j`. -/
def isNeeded (own : List (Symbol × Alias)) (others : List Production) (a : Alias) (j : Nat) :
    Bool :=
  others.any fun p =>
    match p.steps[j]? with
    | none => false
    | some t => t.otherName == some a && own.lookup t.symbol != some a

/-- Drops the names of steps whose symbols have them anyway. `others` are the other productions of
the construct. -/
def dropOwnAliases (own : List (Symbol × Alias)) (others : List Production) (p : Production) :
    Production :=
  { p with steps := p.steps.zipIdx.map fun (t, j) =>
      match t.otherName with
      | none => t
      | some a =>
        if own.lookup t.symbol == some a && !isNeeded own others a j then
          { t with otherName := none }
        else t }

/-- `dropOwnAliases` for each production of a construct. -/
def Phrase.dropOwnAliases (own : List (Symbol × Alias)) (p : Phrase) : Phrase :=
  { p with productions := p.productions.zipIdx.map fun (production, i) =>
      Grammar.dropOwnAliases own (p.productions.eraseIdx i) production }

/-! ## Languages -/

/-- Makes a grammar ready. -/
def Language.of (g : Definition) : Language :=
  let vocabulary := Vocabulary.of g
  let constructs := Repetitions.expandConstructs vocabulary.constructs
  let reservedNames := g.reserved.map (·.1)
  let phrases := constructs.map fun c =>
    (⟨c.name, c.visibility, c.rule.productions reservedNames⟩ : Phrase)
  let named := fun name => (g.symbolOf name).rename vocabulary.renamed
  let inlined := g.inlined.map named
  let own := ownAliasesOf inlined vocabulary.extras phrases
  { phrases := (phrases.map (·.dropOwnAliases own)).toArray
    tokens := vocabulary.tokens
    externals := vocabulary.externals
    separators := vocabulary.separators
    extras := vocabulary.extras
    word := match named g.word with
      | .token t => t
      | _ => 0
    supertypes := g.supertypes.map named
    inlined
    reserved := (g.reserved.map fun (_, words) =>
      words.filterMap fun w => vocabulary.tokens.findIdx? (·.rule == .text w)).toArray
    ownAliases := own
    precedences := g.precedences }

end Diagnosis.Grammar
