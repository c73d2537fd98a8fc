import Diagnosis.Pattern.Regex

/-!
# Reading search patterns

The written form of search patterns: literal characters, classes in brackets, the escapes for
blanks, digits and words, groups, alternatives, repetitions (`*`, `+`, `?`, `{2,5}`, each followed
by `?` if lazy), the edges of texts and words, and `(?i)` in front for a pattern that ignores case.

A written pattern that makes no sense is refused with the `Reason` and the place.
-/

namespace Diagnosis.Pattern

/-- Why a pattern is refused. -/
inductive Reason where
  /-- It ends in a backslash. -/
  | danglingEscape
  /-- A repetition of nothing. -/
  | nothingToRepeat
  /-- A repetition of a repetition. -/
  | multipleRepeat
  /-- A repetition at least so often as it is more than at most. -/
  | swappedBounds
  /-- A group that is not closed. -/
  | unclosedGroup
  /-- A parenthesis that closes no group. -/
  | unopenedGroup
  /-- A class that is not closed. -/
  | unclosedClass
  /-- A range whose ends are swapped or are no characters. -/
  | badRange (text : String)
  /-- An escape that means nothing. -/
  | badEscape (text : String)
  /-- An escape with too few digits. -/
  | shortEscape (text : String)
  /-- An octal escape past the largest one. -/
  | largeEscape (text : String)
  /-- A reference to a group that does not exist. -/
  | badReference (group : Nat)
  /-- A reference without a name. -/
  | missingReference (what : String)
  /-- A reference by something that is neither a name nor a number. -/
  | badName (name : String)
  /-- A name that no group has. -/
  | unknownName (name : String)
  /-- A kind of group that does not exist. -/
  | unknownGroup (text : String)
  /-- A flag that is not in front. -/
  | lateFlag
  /-- It ends inside the head of a group. -/
  | endOfPattern
  deriving Repr, DecidableEq

/-- The wording of a reason. -/
def Reason.message : Reason → String
  | danglingEscape => "bad escape (end of pattern)"
  | nothingToRepeat => "nothing to repeat"
  | multipleRepeat => "multiple repeat"
  | swappedBounds => "min repeat greater than max repeat"
  | unclosedGroup => "missing ), unterminated subpattern"
  | unopenedGroup => "unbalanced parenthesis"
  | unclosedClass => "unterminated character set"
  | badRange s => "bad character range " ++ s
  | badEscape s => "bad escape " ++ s
  | shortEscape s => "incomplete escape " ++ s
  | largeEscape s => "octal escape value " ++ s ++ " outside of range 0-0o377"
  | badReference n => "invalid group reference " ++ toString n
  | missingReference s => "missing " ++ s
  | badName s => "bad character in group name " ++ s
  | unknownName s => "unknown group name " ++ s
  | unknownGroup s => "unknown extension ?" ++ s
  | lateFlag => "global flags not at the start of the expression"
  | endOfPattern => "unexpected end of pattern"

/-- Why and where a pattern is refused. -/
structure Fault where
  /-- The reason. -/
  reason : Reason
  /-- The number of characters before the place. -/
  position : Nat
  deriving Repr, DecidableEq

/-- The wording of a fault in a written pattern. A pattern of several lines also gets the line and
the column. -/
def Fault.message (source : List Char) (f : Fault) : String :=
  let base := f.reason.message ++ " at position " ++ toString f.position
  if source.contains '\n' then
    let before := source.take f.position
    let column := (before.reverse.takeWhile (· != '\n')).length + 1
    base ++ " (line " ++ toString (before.count '\n' + 1) ++ ", column " ++ toString column ++ ")"
  else base

/-! ## Tokens -/

/-- A character, or a backslash and the character that it escapes. A backslash at the end stands
alone. -/
abbrev Token := List Char

/-- The tokens of a written pattern. -/
def tokens : List Char → List Token
  | [] => []
  | ['\\'] => [['\\']]
  | '\\' :: c :: rest => ['\\', c] :: tokens rest
  | c :: rest => [c] :: tokens rest

/-- A place in a written pattern. -/
structure Cursor where
  /-- The number of characters before. -/
  position : Nat
  /-- The tokens after. -/
  rest : List Token
  /-- Whether case is ignored. -/
  ignoreCase : Bool := false

/-- A step of reading. -/
abbrev Reader := StateT Cursor (Except Fault)

/-- Refuses the pattern, `back` characters before the place. -/
def refuse {α : Type} (reason : Reason) (back : Nat) : Reader α := do
  throw ⟨reason, (← get).position - back⟩

/-- Refuses a backslash that stands alone as soon as it comes next. -/
def checkNext : Reader Unit := do
  let c ← get
  if c.rest = [['\\']] then throw ⟨.danglingEscape, c.position⟩

/-- The next token, which stays. -/
def peek : Reader (Option Token) := return (← get).rest.head?

/-- The next token. -/
def take : Reader (Option Token) := do
  match (← get).rest with
  | [] => return none
  | t :: rest =>
    modify fun c => { c with position := c.position + t.length, rest }
    checkNext
    return some t

/-- Takes the next token if it is the given character. -/
def takeIf (x : Char) : Reader Bool := do
  if (← peek) = some [x] then
    let _ ← take
    return true
  else return false

/-- Takes up to `n` characters of a kind. -/
def takeWhile (p : Char → Bool) : Nat → Reader (List Char)
  | 0 => return []
  | n + 1 => do
    match ← peek with
    | some [c] =>
      if p c then
        let _ ← take
        return c :: (← takeWhile p n)
      else return []
    | _ => return []

/-! ## Escapes -/

/-- Whether a character is an ASCII digit. -/
def isAsciiDigit (c : Char) : Bool := '0' ≤ c && c ≤ '9'

/-- Whether a character is an octal digit. -/
def isOctalDigit (c : Char) : Bool := '0' ≤ c && c ≤ '7'

/-- Whether a character is a hexadecimal digit. -/
def isHexDigit (c : Char) : Bool :=
  isAsciiDigit c || ('a' ≤ c && c ≤ 'f') || ('A' ≤ c && c ≤ 'F')

/-- Whether a character is an ASCII letter. -/
def isAsciiLetter (c : Char) : Bool := ('a' ≤ c && c ≤ 'z') || ('A' ≤ c && c ≤ 'Z')

/-- The value of a digit in a base up to sixteen. -/
def digitOf (c : Char) : Nat :=
  if isAsciiDigit c then c.toNat - 48
  else if 'a' ≤ c then c.toNat - 87 else c.toNat - 55

/-- The number that digits write in a base. -/
def numberIn (base : Nat) (digits : List Char) : Nat :=
  digits.foldl (fun n c => n * base + digitOf c) 0

/-- The controls that have a letter of their own. -/
def controlOf? : Char → Option Char
  | 'a' => some '\x07'
  | 'f' => some '\x0c'
  | 'n' => some '\n'
  | 'r' => some '\r'
  | 't' => some '\t'
  | 'v' => some '\x0b'
  | '\\' => some '\\'
  | _ => none

/-- The classes of characters that have a letter of their own. -/
def classOf? : Char → Option CharTest
  | 'd' => some .digit
  | 'D' => some (.except .digit)
  | 's' => some .blank
  | 'S' => some (.except .blank)
  | 'w' => some .word
  | 'W' => some (.except .word)
  | _ => none

/-- How many hexadecimal digits follow a letter. -/
def hexWidth? : Char → Option Nat
  | 'x' => some 2
  | 'u' => some 4
  | 'U' => some 8
  | _ => none

/-- The escape of a character by its number. -/
def readNumbered (letter : Char) (width : Nat) : Reader Char := do
  let digits ← takeWhile isHexDigit width
  if digits.length < width then
    refuse (.shortEscape (String.ofList ('\\' :: letter :: digits))) (digits.length + 2)
  else return Char.ofNat (numberIn 16 digits)

/-- The character that octal digits write. -/
def readOctal (digits : List Char) : Reader Char :=
  let n := numberIn 8 digits
  if 0o377 < n then
    refuse (.largeEscape (String.ofList ('\\' :: digits))) (digits.length + 1)
  else return Char.ofNat n

/-- A character that is escaped for no reason, or an escape that means nothing. -/
def readPlainEscape (c : Char) : Reader Char :=
  if isAsciiLetter c || isAsciiDigit c then refuse (.badEscape (String.ofList ['\\', c])) 2
  else return c

/-- The edge that an escape stands for. -/
def edgeOf? : Char → Option Regex
  | 'A' => some .textStart
  | 'Z' => some (.textStop false)
  | 'b' => some (.wordEdge true)
  | 'B' => some (.wordEdge false)
  | _ => none

/-- The number of an escape that begins with a digit other than zero. -/
def readReference (c : Char) : Reader Char := do
  let second ← takeWhile isAsciiDigit 1
  let third ← match second with
    | [d] => if isOctalDigit c && isOctalDigit d then takeWhile isOctalDigit 1 else pure []
    | _ => pure []
  if third.isEmpty then
    let digits := c :: second
    refuse (.badReference (numberIn 10 digits)) digits.length
  else readOctal (c :: second ++ third)

/-- The character that an escape stands for. -/
def readEscapedChar (c : Char) : Reader Char := do
  match controlOf? c, hexWidth? c with
  | some x, _ => return x
  | none, some width => readNumbered c width
  | none, none =>
    if c = '0' then readOctal ('0' :: (← takeWhile isOctalDigit 2))
    else if isAsciiDigit c then readReference c
    else readPlainEscape c

/-! ## Classes -/

/-- The character or the class that an escape in a class stands for. -/
def readClassEscape (c : Char) : Reader (Char ⊕ CharTest) := do
  match classOf? c with
  | some t => return .inr t
  | none =>
    if c = 'b' then return .inl '\x08'
    else if isOctalDigit c then return .inl (← readOctal (c :: (← takeWhile isOctalDigit 2)))
    else if isAsciiDigit c then refuse (.badEscape (String.ofList ['\\', c])) 2
    else return .inl (← readEscapedChar c)

/-- One end of a range, or a class. -/
def readMember (t : Token) : Reader (Char ⊕ CharTest) :=
  match t with
  | ['\\', c] => readClassEscape c
  | c :: _ => return .inl c
  | [] => return .inl '\\'

/-- The test for a member of a class. -/
def testOf : Char ⊕ CharTest → CharTest
  | .inl c => .only c
  | .inr t => t

/-- The members of a class up to the bracket that closes it. `start` is where the class began. -/
def readMembers (start : Nat) : Nat → List CharTest → Reader (List CharTest)
  | 0, found => return found
  | fuel + 1, found => do
    match ← take with
    | none => throw ⟨.unclosedClass, start⟩
    | some t =>
      if t = [']'] && !found.isEmpty then return found
      else
        let first ← readMember t
        if !(← takeIf '-') then readMembers start fuel (found ++ [testOf first])
        else match ← take with
          | none => throw ⟨.unclosedClass, start⟩
          | some u =>
            if u = [']'] then return found ++ [testOf first, .only '-']
            else
              let last ← readMember u
              let shown := String.ofList (t ++ '-' :: u)
              match first, last with
              | .inl a, .inl b =>
                if b < a then refuse (.badRange shown) (t.length + 1 + u.length)
                else readMembers start fuel (found ++ [.range a b])
              | _, _ => refuse (.badRange shown) (t.length + 1 + u.length)

/-- A class whose opening bracket has been taken. -/
def readClass : Reader CharTest := do
  let c ← get
  let negated ← takeIf '^'
  let members ← readMembers (c.position - 1) (c.rest.length + 1) []
  let test := match members with
    | [] => CharTest.only ']'
    | t :: ts => ts.foldl .either t
  return if negated then .except test else test

/-! ## Repetitions -/

/-- A part of a pattern. -/
structure Item where
  /-- What it describes. -/
  regex : Regex
  /-- Whether it is the edge of a text or a word. -/
  isEdge : Bool := false
  /-- Whether it is a repetition. -/
  isRepetition : Bool := false

/-- The bounds of a repetition. -/
structure Bounds where
  /-- The least number. -/
  least : Nat
  /-- The greatest number. -/
  most : Option Nat

/-- The bounds that stand between braces, or nothing if this is no repetition. -/
def readBounds : Reader (Option Bounds) := do
  let start ← get
  if (← peek) = some ['\x7d'] then return none
  let digits := takeWhile isAsciiDigit start.rest.length
  let low ← digits
  let high ← if ← takeIf ',' then digits else pure low
  if !(← takeIf '\x7d') then
    set start
    return none
  let least := numberIn 10 low
  let most := if high.isEmpty then none else some (numberIn 10 high)
  match most with
  | some n =>
    if n < least then throw ⟨.swappedBounds, start.position⟩
    else return some ⟨least, some n⟩
  | none => return some ⟨least, none⟩

/-- The bounds of a repetition whose first character has been taken. -/
def boundsAfter (c : Char) : Reader (Option Bounds) :=
  match c with
  | '?' => return some ⟨0, some 1⟩
  | '*' => return some ⟨0, none⟩
  | '+' => return some ⟨1, none⟩
  | _ => readBounds

/-- Repeats the last item. `place` is where the sign of the repetition stands. -/
def repeatLast (place : Nat) (b : Bounds) (items : List Item) : Reader (List Item) := do
  match items.getLast? with
  | none => throw ⟨.nothingToRepeat, place⟩
  | some item =>
    if item.isEdge then throw ⟨.nothingToRepeat, place⟩
    if item.isRepetition then throw ⟨.multipleRepeat, place⟩
    let isLazy ← takeIf '?'
    return items.dropLast
      ++ [{ regex := .many item.regex b.least b.most isLazy, isRepetition := true }]

/-! ## Patterns -/

/-- The head of a group whose parenthesis has been taken; `start` is its place. Says whether it was
a flag for the whole pattern, which has no body. -/
def readGroupHead (start : Nat) (isFirst : Bool) : Reader Bool := do
  if !(← takeIf '?') then return false
  match ← take with
  | none => refuse .endOfPattern 0
  | some [':'] => return false
  | some ['i'] =>
    if !(← takeIf ')') then refuse (.unknownGroup "i") 2
    if !isFirst then throw ⟨.lateFlag, start⟩
    modify fun c => { c with ignoreCase := true }
    return true
  | some t => refuse (.unknownGroup (String.ofList t)) (t.length + 1)

/-- A character that stands for itself or for a class, or an edge. -/
def readSimple (t : Token) : Reader Item := do
  let ignoreCase := (← get).ignoreCase
  let one := fun (test : CharTest) => ({ regex := .one test ignoreCase } : Item)
  match t with
  | ['['] => return one (← readClass)
  | ['.'] => return one (.except (.only '\n'))
  | ['^'] => return { regex := .textStart, isEdge := true }
  | ['$'] => return { regex := .textStop true, isEdge := true }
  | ['\\', c] =>
    match edgeOf? c, classOf? c with
    | some r, _ => return { regex := r, isEdge := true }
    | none, some test => return one test
    | none, none => return one (.only (← readEscapedChar c))
  | c :: _ => return one (.only c)
  | [] => return { regex := .empty }

/-- What items in a row describe. -/
def rowOf (items : List Item) : Regex := .row (items.map (·.regex))

mutual

/-- Alternatives, up to the end or a closing parenthesis. `isFirst` says whether nothing has come
before. -/
def readChoice (fuel : Nat) (isFirst : Bool) : Reader Regex :=
  match fuel with
  | 0 => return .empty
  | fuel + 1 => do
    let items ← readRow fuel isFirst []
    if ← takeIf '|' then return .either (rowOf items) (← readChoice fuel false)
    else return rowOf items

/-- Items in a row. -/
def readRow (fuel : Nat) (isFirst : Bool) (items : List Item) : Reader (List Item) :=
  match fuel with
  | 0 => return items
  | fuel + 1 => do
    let start := (← get).position
    match ← peek with
    | none => return items
    | some ['|'] => return items
    | some [')'] => return items
    | some ['('] =>
      let _ ← take
      if ← readGroupHead start (isFirst && items.isEmpty) then readRow fuel isFirst items
      else
        let body ← readChoice fuel false
        if !(← takeIf ')') then throw ⟨.unclosedGroup, start⟩
        readRow fuel isFirst (items ++ [{ regex := body }])
    | some t =>
      let _ ← take
      match t with
      | [c] =>
        if "?*+\x7b".toList.contains c then
          match ← boundsAfter c with
          | none => readRow fuel isFirst (items ++ [← readSimple t])
          | some b => readRow fuel isFirst (← repeatLast start b items)
        else readRow fuel isFirst (items ++ [← readSimple t])
      | _ => readRow fuel isFirst (items ++ [← readSimple t])

end

/-- A whole pattern. -/
def readPattern (source : List Char) : Reader Regex := do
  checkNext
  let r ← readChoice (2 * source.length + 2) true
  if (← peek).isSome then refuse .unopenedGroup 0
  return r

/-- The pattern that a text writes. -/
def Regex.read (source : String) : Except Fault Regex :=
  let s := source.toList
  (readPattern s).run' ⟨0, tokens s, false⟩

end Diagnosis.Pattern
