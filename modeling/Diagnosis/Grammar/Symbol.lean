import Diagnosis.Grammar.Rule

/-!
# Symbols

What rules refer to once names are resolved. `resolveRules` puts symbols in place of names and joins
marks that lie on one another.
-/

namespace Diagnosis.Grammar

/-- What a rule refers to. -/
inductive Symbol where
  /-- A token that is recognised by other means than its characters. -/
  | external (i : Nat)
  /-- The end of the text. -/
  | finish
  /-- A token. -/
  | token (i : Nat)
  /-- A construct. -/
  | construct (i : Nat)
  deriving Repr, BEq, DecidableEq, Hashable, Inhabited

/-- The place of a symbol among all symbols: its sort, then its number. -/
def Symbol.order : Symbol → Nat × Nat
  | external i => (0, i)
  | finish => (1, 0)
  | token i => (2, i)
  | construct i => (3, i)

/-- How a symbol appears in trees. -/
inductive Visibility where
  /-- As a construct. -/
  | named
  /-- As punctuation. -/
  | anonymous
  /-- Not at all. -/
  | hidden
  /-- Not at all, and it was not written in the grammar. -/
  | auxiliary
  deriving Repr, BEq, DecidableEq, Inhabited

/-- Whether a symbol of the grammar is hidden by its name. -/
def isHiddenName (name : String) : Bool := name.toList.head? == some '_'

namespace Rule

variable {σ τ : Type}

mutual

/-- Joins marks that lie on one another, and choices among choices. -/
def normalize [BEq σ] : Rule σ → Rule σ
  | .seq parts => .seq (normalizeAll parts)
  | .choice parts => oneOf (normalizeAll parts)
  | .many1 part => .many1 (normalize part)
  | .marked m part => Rule.mark m (normalize part)
  | r => r

/-- `normalize` for each of several rules. -/
def normalizeAll [BEq σ] : List (Rule σ) → List (Rule σ)
  | [] => []
  | r :: rs => normalize r :: normalizeAll rs

end

mutual

/-- Replaces the references of a rule. -/
def mapRefs [BEq τ] (f : σ → τ) : Rule σ → Rule τ
  | .text s => .text s
  | .chars c => .chars c
  | .ref s => .ref (f s)
  | .seq parts => .seq (mapRefsAll f parts)
  | .choice parts => oneOf (mapRefsAll f parts)
  | .blank => .blank
  | .many1 part => .many1 (mapRefs f part)
  | .marked m part => .marked m (mapRefs f part)

/-- `mapRefs` for each of several rules. -/
def mapRefsAll [BEq τ] (f : σ → τ) : List (Rule σ) → List (Rule τ)
  | [] => []
  | r :: rs => mapRefs f r :: mapRefsAll f rs

end

end Rule

/-- The name of an external token, which is its own name or the text that it is. -/
def externalName : Rule String → String
  | .ref name => name
  | .text s => s
  | _ => ""

namespace Definition

variable (g : Definition)

/-- The symbol of a name: a construct, else an external token. A name that nobody defines stands for
the end of the text, which no rule reaches. -/
def symbolOf (name : String) : Symbol :=
  match g.rules.findIdx? (·.1 == name) with
  | some i => .construct i
  | none =>
    match g.externals.findIdx? fun e => externalName e == name with
    | some i => .external i
    | none => .finish

/-- A rule with symbols in place of names. -/
def resolve (r : Rule String) : Rule Symbol := r.normalize.mapRefs g.symbolOf

/-- How a construct appears in trees. -/
def visibilityOf (name : String) : Visibility :=
  if isHiddenName name || g.supertypes.contains name then .hidden else .named

end Definition

/-- A construct and its rule. -/
structure Construct where
  /-- Its name. -/
  name : String
  /-- How it appears in trees. -/
  visibility : Visibility
  /-- What it consists of. -/
  rule : Rule Symbol
  deriving Repr, Inhabited

/-- The constructs of a grammar. -/
def Definition.constructs (g : Definition) : List Construct :=
  g.rules.map fun (name, rule) => ⟨name, g.visibilityOf name, g.resolve rule⟩

end Diagnosis.Grammar
