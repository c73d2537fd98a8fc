import Diagnosis.Automaton.Contest
import Diagnosis.Automaton.State

/-!
# Keywords and faults

Which fixed words are keywords: they are recognised as the word token first and told apart from
names afterwards. And which tokens are recognised at a fault, where the automaton does not say what
may come: all but those that would swallow tokens with which they never compete elsewhere.
-/

namespace Diagnosis.Automaton

open Diagnosis.Grammar

/-- What is known of the tokens of a language beside its states. -/
structure Facts where
  /-- The language. -/
  language : Language
  /-- The contests between tokens. -/
  contests : Contests
  /-- For each token, the tokens that some state has an action for along with it. -/
  companions : Array BitSet
  /-- The tokens that are keywords. -/
  keywords : BitSet
  deriving Inhabited

/-- The terminals for which a state has an action. -/
def State.present (s : State) : BitSet :=
  s.actions.zipIdx.foldl (fun set (actions, t) => if actions.isEmpty then set else set.insert t) {}

/-- For each token, the tokens that some state has an action for along with it. -/
def companionsOf (tokens : Nat) (present : Array BitSet) : Array BitSet :=
  let all := BitSet.ofList (List.range tokens)
  present.foldl (fun found set =>
    let here := set.inter all
    here.toList.foldl (fun found t => found.modify t (·.union here)) found)
    (Array.replicate tokens {})

/-- The letters of which the first letter of a keyword is one. -/
def keywordStart : CharClass := .range 'a' 'z' ++ .range 'A' 'Z' ++ .anyOf "_"

/-- The tokens that are texts of the word token, and nothing else. -/
def wordLike (l : Language) (a : Alphabet) (n : Nfa) (c : Contests) : List Nat :=
  let start := a.lettersWithin keywordStart
  (List.range l.tokens.size).filter fun i =>
    i != l.word && (n.ownStartLetters i).subset start
      && (c.fate i l.word).sameText && !(c.fate i l.word).otherText

/-- Whether a token stands for itself beside every other one as the word token would, wherever the
two may come and the word token may not. -/
def isReplaceable (l : Language) (c : Contests) (present : Array BitSet) (companions : Array BitSet)
    (candidates : List Nat) (t : Nat) : Bool :=
  (List.range l.tokens.size).all fun other =>
    candidates.contains other || !(companions.getD t {}).contains other
      || c.alike t l.word other
      || present.all fun set => !set.contains t || !set.contains other || set.contains l.word

/-- The keywords of a language. -/
def keywordsOf (l : Language) (a : Alphabet) (n : Nfa) (c : Contests) (present : Array BitSet)
    (companions : Array BitSet) : List Nat :=
  let candidates := wordLike l a n c
  let distinct := candidates.filter fun t =>
    !candidates.any fun other => other != t && (c.fate other t).sameText
  distinct.filter (isReplaceable l c present companions candidates)

/-- The facts about a language, given its states. -/
def Facts.of (l : Language) (e : Edges) (a : Alphabet) (n : Nfa) (states : Array State) : Facts :=
  let present := states.map State.present
  let contests := Contests.of l e n
  let companions := companionsOf l.tokens.size present
  { language := l
    contests
    companions
    keywords := BitSet.ofList (keywordsOf l a n contests present companions) }

namespace Facts

variable (f : Facts)

/-- The number of tokens. -/
def tokens : Nat := f.language.tokens.size

/-- Whether two tokens are recognised in one state. -/
def together (i j : Nat) : Bool := (f.companions.getD i {}).contains j

/-- Whether no token that is never recognised along with it outgrows a token. -/
def isHarmless (i : Nat) : Bool :=
  (List.range f.tokens).all fun j => j == i || f.together i j || !f.contests.outgrows i j

/-- The tokens that are recognised at a fault. -/
def faultTokens : List Nat :=
  let harmless := (List.range f.tokens).filter f.isHarmless
  (List.range f.tokens).filter fun i =>
    harmless.contains i || f.keywords.contains i || i == f.language.word
      || !harmless.any fun t => !f.together i t && f.contests.displaces i t

/-- The external tokens that are recognised by other means only. -/
def ownExternals : List Nat :=
  (f.language.externals.toList.zipIdx.filter (·.1.internal.isNone)).map fun (_, i) => f.tokens + i

/-- The state for faults: it skips every terminal that it recognises. -/
def faultState (s : State) : State :=
  let put := fun (actions : Array (List Action)) (t : Nat) (action : Action) =>
    if (actions.getD t []).isEmpty then actions.set! t [action] else actions
  let extras := f.language.extras.filterMap fun x =>
    match nextOf f.language x with
    | .terminal t => some t
    | _ => none
  let actions := extras.foldl (fun acc t => put acc t .shiftExtra) s.actions
  let others := f.faultTokens ++ f.ownExternals ++ [finishIndex f.language]
  { s with actions := others.foldl (fun acc t => put acc t .recover) actions }

end Facts

end Diagnosis.Automaton
