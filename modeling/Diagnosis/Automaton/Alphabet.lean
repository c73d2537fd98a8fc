import Diagnosis.Automaton.BitSet
import Diagnosis.Grammar.Language

/-!
# The alphabet of a lexicon

Two code points that belong to the same character classes of a lexicon are the same letter to it.
The `Alphabet` numbers the letters and finds the letter of a code point; a character class is then a
small set of letters.
-/

namespace Diagnosis.Automaton

open Diagnosis.Grammar

/-- The letters of a lexicon. -/
structure Alphabet where
  /-- The code points at which the letter may change, in order. -/
  bounds : Array Nat
  /-- The letter from each bound up to the next. -/
  letters : Array Nat
  /-- A code point of each letter. -/
  samples : Array Nat
  deriving Inhabited, Repr

/-- The code points of a text as classes with one member. -/
def textClasses (s : String) : List CharClass :=
  s.toList.map fun c => ⟨[(c.toNat, c.toNat)]⟩

mutual

/-- The character classes in a rule. -/
def classesIn : Rule Symbol → List CharClass
  | .text s => textClasses s
  | .chars c => [c]
  | .ref _ => []
  | .seq parts => classesInAll parts
  | .choice parts => classesInAll parts
  | .blank => []
  | .many1 part => classesIn part
  | .marked _ part => classesIn part

/-- The character classes in several rules. -/
def classesInAll : List (Rule Symbol) → List CharClass
  | [] => []
  | r :: rs => classesIn r ++ classesInAll rs

end

namespace Alphabet

/-- The code points at which membership in one of the classes changes. -/
def boundsOf (classes : List CharClass) : List Nat :=
  let marks := classes.flatMap fun c => c.ranges.flatMap fun (a, b) => [a, b + 1]
  (((0 :: marks).filter (· ≤ CharClass.lastCode)).mergeSort (· ≤ ·)).eraseDups

/-- Which of the classes a code point belongs to. -/
def signature (classes : List CharClass) (n : Nat) : List Bool := classes.map (·.contains n)

/-- The alphabet for the given classes. -/
def ofClasses (classes : List CharClass) : Alphabet :=
  let classes := classes.eraseDups
  let bounds := boundsOf classes
  let signatures := bounds.map (signature classes)
  let kinds := signatures.eraseDups
  { bounds := bounds.toArray
    letters := (signatures.map fun s => (kinds.idxOf? s).getD 0).toArray
    samples := (kinds.map fun k =>
      ((bounds.zip signatures).findSome? fun (n, s) =>
        if s == k then some n else none).getD 0).toArray }

/-- The alphabet of a language. -/
def of (l : Language) : Alphabet :=
  ofClasses (classesInAll ((l.tokens.toList.map (·.rule)) ++ l.separators))

/-- The letter of a code point, looked for between two places of the bounds. -/
def letterBetween (a : Alphabet) (n : Nat) : Nat → Nat → Nat → Nat
  | 0, lo, _ => a.letters.getD (lo - 1) 0
  | fuel + 1, lo, hi =>
    if lo < hi then
      let mid := (lo + hi) / 2
      if a.bounds.getD mid 0 ≤ n then letterBetween a n fuel (mid + 1) hi
      else letterBetween a n fuel lo mid
    else a.letters.getD (lo - 1) 0

/-- The letter of a code point. -/
def letterOf (a : Alphabet) (n : Nat) : Nat := a.letterBetween n 16 0 a.bounds.size

/-- The letters of a character class. -/
def lettersOf (a : Alphabet) (c : CharClass) : BitSet :=
  a.samples.zipIdx.foldl (fun s (n, i) => if c.contains n then s.insert i else s) {}

/-- Whether all code points from `lo` to `hi` belong to one range of a class. -/
def isWithinRange (c : CharClass) (lo hi : Nat) : Bool :=
  c.ranges.any fun (a, b) => a ≤ lo && hi ≤ b

/-- The letters all of whose code points belong to a class. -/
def lettersWithin (a : Alphabet) (c : CharClass) : BitSet :=
  let ends := (a.bounds.toList.drop 1).map (· - 1) ++ [CharClass.lastCode]
  let stretches := (a.bounds.toList.zip ends).zip a.letters.toList
  let outside := BitSet.ofList (stretches.filterMap fun ((lo, hi), letter) =>
    if isWithinRange c lo hi then none else some letter)
  (BitSet.ofList a.letters.toList).diff outside

end Alphabet

end Diagnosis.Automaton
