import Diagnosis.Text.Lines

/-!
# File names

Paths of files are texts whose parts are separated by slashes. Empty parts and single dots mean
nothing; two slashes at the start, and no more, are a root of their own.
-/

namespace Diagnosis.Text

/-- A path: its root (nothing, one slash or two) and its parts. -/
structure FilePath where
  /-- The root. -/
  root : List Char
  /-- The parts. -/
  parts : List (List Char)
  deriving Repr, DecidableEq

namespace FilePath

/-- The path that a text writes. -/
def read (s : List Char) : FilePath :=
  let slashes := (s.takeWhile (· = '/')).length
  { root := if slashes = 0 then [] else if slashes = 2 then ['/', '/'] else ['/']
    parts := (splitAt '/' s).filter fun p => p != [] && p != ['.'] }

/-- The path as a text. -/
def write (p : FilePath) : String :=
  let body := ['/'].intercalate p.parts
  if p.root = [] ∧ p.parts = [] then "." else String.ofList (p.root ++ body)

/-- A path seen from a directory. One with a root does not depend on the directory. -/
def below (directory p : FilePath) : FilePath :=
  if p.root = [] then { directory with parts := directory.parts ++ p.parts } else p

/-- The last part; nothing for a path without parts. -/
def name (p : FilePath) : List Char := p.parts.getLast?.getD []

/-- The path without its last part. -/
def parent (p : FilePath) : FilePath := { p with parts := p.parts.dropLast }

end FilePath

/-- The ending of a file name, its dot included. A dot at the start or the end of the name begins
none. -/
def suffixOf (name : List Char) : List Char :=
  let ending := (name.reverse.takeWhile (· != '.')).reverse
  let before := name.length - ending.length
  if 1 < before ∧ ending ≠ [] then '.' :: ending else []

end Diagnosis.Text
