import Diagnosis.Json.Read
import Diagnosis.Yaml.Scalar

/-!
# Scalars and flow collections

How the parts of a YAML text are read that stand on a line by themselves: bare and quoted scalars,
and collections in brackets. They may go on over several lines; a single line break inside is a
blank, and of several line breaks the first counts for nothing.

A value may have an anchor, and an alias repeats it further on. The readers keep the anchored values they
have come past.
-/

namespace Diagnosis.Yaml

/-- Whether a character ends a line. -/
def isBreak (c : Char) : Bool :=
  c = '\n' || c = '\r' || c = '\x85' || c = '\u2028' || c = '\u2029'

/-- Whether a character separates tokens. -/
def isSeparator (c : Char) : Bool := c = ' ' || c = '\t' || isBreak c

/-- Whether a separator or the end of the text comes next. -/
def atSeparator : List Char → Bool
  | [] => true
  | c :: _ => isSeparator c

/-- A line break and what comes after it. The usual line breaks count as line feeds. -/
def readBreak? : List Char → Option (Char × List Char)
  | '\r' :: '\n' :: rest => some ('\n', rest)
  | c :: rest =>
    if c = '\u2028' || c = '\u2029' then some (c, rest)
    else if isBreak c then some ('\n', rest)
    else none
  | [] => none

/-- What a line break and the empty lines after it stand for inside a scalar. -/
def folded (first : Char) (more : List Char) : List Char :=
  if first ≠ '\n' then first :: more else if more.isEmpty then [' '] else more

/-- Whether a document ends here, at the start of a line. -/
def atMarker (s : List Char) : Bool :=
  (['-', '-', '-'].isPrefixOf s || ['.', '.', '.'].isPrefixOf s) && atSeparator (s.drop 3)

/-! ## Bare scalars -/

/-- The brackets and the comma of flow collections. -/
def flowMarks : List Char := [',', '[', ']', '\x7b', '\x7d']

/-- Whether a bare scalar may begin with what comes next. -/
def startsBare (flow : Bool) : List Char → Bool
  | [] => false
  | c :: rest =>
    if c = '-' then !atSeparator rest
    else if c = '?' || c = ':' then !flow && !atSeparator rest
    else !isSeparator c && !(flowMarks ++ "#&*!|>'\"%@`".toList).contains c

/-- Whether a bare scalar ends before a character, given what follows the character. -/
def endsBare (flow : Bool) (c : Char) (rest : List Char) : Bool :=
  isSeparator c
    || (c = ':' && (atSeparator rest || (flow && rest.head?.any flowMarks.contains)))
    || (flow && (c = '?' || flowMarks.contains c))

/-- The characters up to the next blank or the end of the scalar. -/
def bareChunk (flow : Bool) : List Char → List Char × List Char
  | [] => ([], [])
  | c :: rest =>
    if endsBare flow c rest then ([], c :: rest)
    else
      let (chunk, after) := bareChunk flow rest
      (c :: chunk, after)

/-- The part of a bare scalar that stands on one line. -/
def bareLine (flow : Bool) : Nat → List Char → List Char × List Char
  | 0, s => ([], s)
  | fuel + 1, s =>
    let (chunk, rest) := bareChunk flow s
    let blanks := rest.takeWhile (· = ' ')
    let after := rest.dropWhile (· = ' ')
    if chunk.isEmpty then ([], s)
    else if blanks.isEmpty || after.head? == some '#' then (chunk, rest)
    else
      match bareLine flow fuel after with
      | ([], _) => (chunk, rest)
      | (more, left) => (chunk ++ blanks ++ more, left)

/-- The line breaks and blanks that come next, and the column after them. -/
def skipBreaks (column : Nat) : List Char → List Char × Nat × List Char
  | [] => ([], column, [])
  | '\r' :: '\n' :: rest =>
    let (breaks, c, left) := skipBreaks 0 rest
    ('\n' :: breaks, c, left)
  | c :: rest =>
    if c = ' ' then skipBreaks (column + 1) rest
    else if isBreak c then
      let (breaks, k, left) := skipBreaks 0 rest
      ((if c = '\u2028' || c = '\u2029' then c else '\n') :: breaks, k, left)
    else ([], column, c :: rest)

/-- The lines with which a bare scalar goes on. Outside flow collections they are indented by at
least `indent`. -/
def bareMore (flow : Bool) (indent : Nat) : Nat → List Char → List Char × List Char
  | 0, s => ([], s)
  | fuel + 1, s =>
    match readBreak? (s.dropWhile (· = ' ')) with
    | none => ([], s)
    | some (first, rest) =>
      let (breaks, column, left) := skipBreaks 0 rest
      if (column = 0 && atMarker left) || left.head? == some '#' || (!flow && column < indent) then
        ([], s)
      else
        match bareLine flow left.length left with
        | ([], _) => ([], s)
        | (line, after) =>
          let (more, final) := bareMore flow indent fuel after
          (folded first breaks ++ line ++ more, final)

/-! ## Quoted scalars -/

/-- The characters that short escapes stand for. -/
def escapes : List (Char × Char) :=
  [('0', '\x00'), ('a', '\x07'), ('b', '\x08'), ('t', '\t'), ('\t', '\t'), ('n', '\n'),
    ('v', '\x0b'), ('f', '\x0c'), ('r', '\r'), ('e', '\x1b'), (' ', ' '), ('"', '"'), ('\\', '\\'),
    ('/', '/'), ('N', '\x85'), ('_', '\xa0'), ('L', '\u2028'), ('P', '\u2029')]

/-- The number of digits of a numeric escape. -/
def escapeLengths : List (Char × Nat) := [('x', 2), ('u', 4), ('U', 8)]

/-- The number that digits of base sixteen write. -/
def hexNumber? (digits : List Char) : Option Nat :=
  digits.foldlM (fun n c => (Json.hexValue? c).map (n * 16 + ·)) 0

/-- The blanks and line breaks inside a quoted scalar, and what they stand for. -/
def quotedBlanks (s : List Char) : Except Fault (List Char × List Char) :=
  let blanks := s.takeWhile fun c => c = ' ' || c = '\t'
  let after := s.dropWhile fun c => c = ' ' || c = '\t'
  match readBreak? after with
  | none => .ok (blanks, after)
  | some (first, rest) =>
    let region := rest.takeWhile isSeparator
    let lines := Text.splitAt '\n' (region.filter fun c => c = '\n' || c = '\u2028' || c = '\u2029')
    let left := rest.dropWhile isSeparator
    if atMarker left && (region.isEmpty || region.getLast?.any isBreak) then .error .malformed
    else .ok (folded first (List.replicate (lines.length - 1) '\n'), left)

/-- An escape, after its backslash. -/
def readEscape : List Char → Except Fault (List Char × List Char)
  | [] => .error .malformed
  | c :: rest =>
    match escapes.lookup c, escapeLengths.lookup c with
    | some d, _ => .ok ([d], rest)
    | none, some n =>
      if (rest.take n).length < n then .error .malformed
      else
        match hexNumber? (rest.take n) with
        | some k => .ok ([Char.ofNat k], rest.drop n)
        | none => .error .malformed
    | none, none =>
      match readBreak? (c :: rest) with
      | some (_, after) => .ok ([], after.dropWhile isSeparator)
      | none => .error .malformed

/-- The body of a scalar in the given quotes, up to and with the closing quote. -/
def readQuoted (quote : Char) : Nat → List Char → Except Fault (List Char × List Char)
  | 0, _ => .error .malformed
  | _, [] => .error .malformed
  | fuel + 1, c :: rest =>
    if c = quote then
      if quote = '\'' && rest.head? == some quote then do
        let (more, left) ← readQuoted quote fuel (rest.drop 1)
        return (quote :: more, left)
      else .ok ([], rest)
    else if quote = '"' && c = '\\' then do
      let (written, after) ← readEscape rest
      let (more, left) ← readQuoted quote fuel after
      return (written ++ more, left)
    else if isSeparator c then do
      let (blanks, after) ← quotedBlanks (c :: rest)
      let (more, left) ← readQuoted quote fuel after
      return (blanks ++ more, left)
    else do
      let (more, left) ← readQuoted quote fuel rest
      return (c :: more, left)

/-! ## Anchors -/

/-- Values by the names of their anchors. -/
abbrev Anchors := List (String × Yaml)

/-- A step of the reading, which knows the anchors so far. -/
abbrev Reader := StateT Anchors (Except Fault)

/-- Whether a character may stand in the name of an anchor. -/
def isAnchorChar (c : Char) : Bool := c.isAlphanum || c = '-' || c = '_'

/-- The name of an anchor, and what comes after it. -/
def readName (s : List Char) : Except Fault (String × List Char) :=
  let rest := s.dropWhile isAnchorChar
  let ends := atSeparator rest || rest.head?.any "?:,]\x7d%@\x60".toList.contains
  if ends && s.head?.any isAnchorChar then .ok (String.ofList (s.takeWhile isAnchorChar), rest)
  else .error .malformed

/-- The name of a new anchor, and what comes after it. -/
def readAnchor (s : List Char) : Reader (String × List Char) := do
  let (name, rest) ← readName s
  if ((← get).lookup name).isSome then throw .malformed
  return (name, rest)

/-- The value that an alias repeats, and what comes after the alias. -/
def readAlias (s : List Char) : Reader (Yaml × List Char) := do
  let (name, rest) ← readName s
  match (← get).lookup name with
  | some value => return (value, rest)
  | none => throw .malformed

/-- Keeps a value under the name of its anchor. -/
def keep (name : String) (value : Yaml) : Reader Unit := modify ((name, value) :: ·)

/-! ## Flow collections -/

/-- What comes after blanks, comments and line breaks. -/
def skipToToken (inComment : Bool) : List Char → List Char
  | [] => []
  | c :: rest =>
    if isBreak c then skipToToken false rest
    else if inComment then skipToToken true rest
    else if c = ' ' then skipToToken false rest
    else if c = '#' then skipToToken true rest
    else c :: rest

/-- Whether an item of a flow collection ends here. -/
def endsItem (s : List Char) : Bool := s.head?.any fun c => [',', ']', '\x7d'].contains c

mutual

/-- A value inside a flow collection, or any value in quotes or brackets. -/
def readFlow (flow : Bool) : Nat → List Char → Reader (Yaml × List Char)
  | 0, _ => throw .malformed
  | _, [] => throw .malformed
  | fuel + 1, c :: rest => do
    if c = '[' then
      let (items, left) ← readItems fuel true (skipToToken false rest)
      return (.list items, left)
    else if c = '\x7b' then
      let (entries, left) ← readEntries fuel true (skipToToken false rest)
      return (.map (entries.foldl (fun acc (k, v) => put k v acc) []), left)
    else if c = '"' || c = '\'' then
      let (body, left) ← readQuoted c (rest.length + 1) rest
      return (.text (String.ofList body), left)
    else if c = '*' then readAlias rest
    else if flow && c = '&' then
      let (name, after) ← readAnchor rest
      let next := skipToToken false after
      let (value, left) ← if endsItem next then pure (.null, next) else readFlow true fuel next
      keep name value
      return (value, left)
    else if startsBare flow (c :: rest) then
      let (line, after) := bareLine flow (rest.length + 1) (c :: rest)
      let (more, left) := if flow then bareMore flow 0 after.length after else ([], after)
      return (← ofBare (line ++ more), left)
    else throw .malformed

/-- A value, and the value it is the key of if a colon follows on its line. -/
def readPair : Nat → List Char → Reader ((Yaml × Option Yaml) × List Char)
  | 0, _ => throw .malformed
  | fuel + 1, s => do
    let (key, after) ← readFlow true fuel s
    match after.dropWhile (· = ' ') with
    | ':' :: rest =>
      if (s.take (s.length - after.length)).any isBreak then return ((key, none), after)
      if !key.isScalar then throw .malformed
      let next := skipToToken false rest
      if endsItem next then return ((key, some .null), next)
      let (value, left) ← readFlow true fuel next
      return ((key, some value), left)
    | _ => return ((key, none), after)

/-- The items of a sequence, up to and with the closing bracket. -/
def readItems (fuel : Nat) (first : Bool) (s : List Char) : Reader (List Yaml × List Char) :=
  match fuel, s with
  | 0, _ => throw .malformed
  | _, [] => throw .malformed
  | _, ']' :: rest => return ([], rest)
  | fuel + 1, c :: rest => do
    let start ←
      if first then pure (c :: rest)
      else if c = ',' then pure (skipToToken false rest)
      else throw .malformed
    match start with
    | ']' :: left => return ([], left)
    | _ =>
      let ((key, value), after) ← readPair fuel start
      let item := match value with
        | some v => .map [(key, v)]
        | none => key
      let (items, left) ← readItems fuel false (skipToToken false after)
      return (item :: items, left)

/-- The entries of a mapping, up to and with the closing brace. -/
def readEntries (fuel : Nat) (first : Bool) (s : List Char) :
    Reader (List (Yaml × Yaml) × List Char) :=
  match fuel, s with
  | 0, _ => throw .malformed
  | _, [] => throw .malformed
  | _, '\x7d' :: rest => return ([], rest)
  | fuel + 1, c :: rest => do
    let start ←
      if first then pure (c :: rest)
      else if c = ',' then pure (skipToToken false rest)
      else throw .malformed
    match start with
    | '\x7d' :: left => return ([], left)
    | _ =>
      let ((key, value), after) ← readPair fuel start
      if !key.isScalar then throw .malformed
      let (entries, left) ← readEntries fuel false (skipToToken false after)
      return ((key, value.getD .null) :: entries, left)

end

end Diagnosis.Yaml
