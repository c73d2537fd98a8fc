import Diagnosis.Yaml.Flow

/-!
# Reading YAML

`Yaml.read` reads the one document of a text: block mappings and sequences, told by indentation,
flow collections, bare or quoted scalars, and aliases of values with an anchor. Tags, directives, explicit
keys and block scalars are not part of the language of configuration files and are refused, and so are
anchors of keys and aliases inside the value that they repeat.
-/

namespace Diagnosis.Yaml

/-- Where the reader is. -/
structure Cursor where
  /-- What comes next. -/
  rest : List Char
  /-- The column of what comes next. -/
  column : Nat
  deriving Repr

/-- The next token, and whether it is on another line. -/
def toToken (inComment crossed : Bool) (column : Nat) : List Char → Cursor × Bool
  | [] => (⟨[], column⟩, crossed)
  | c :: rest =>
    if isBreak c then toToken false true 0 rest
    else if inComment then toToken true crossed (column + 1) rest
    else if c = ' ' then toToken false crossed (column + 1) rest
    else if c = '#' then toToken true crossed (column + 1) rest
    else (⟨c :: rest, column⟩, crossed)

/-- The next token after a place, and whether it is on another line. -/
def Cursor.next (c : Cursor) : Cursor × Bool := toToken false false c.column c.rest

/-- Whether the document ends here. -/
def Cursor.isEnd (c : Cursor) : Bool := c.rest.isEmpty || (c.column = 0 && atMarker c.rest)

/-- Whether an entry of a block sequence begins here. -/
def Cursor.atDash (c : Cursor) : Bool :=
  match c.rest with
  | '-' :: rest => atSeparator rest
  | _ => false

/-- The key of a block mapping that stands here, and what comes after its colon. What is no key is read
again as a value, so its anchors are not kept. -/
def readKey? (c : Cursor) : Reader (Option (Yaml × List Char)) := do
  if c.atDash then return none
  let known ← get
  let (key, after) ← readFlow false (4 * c.rest.length + 4) c.rest
  let onOneLine := !(c.rest.take (c.rest.length - after.length)).any isBreak
  match after.dropWhile (· = ' ') with
  | ':' :: rest =>
    if onOneLine && atSeparator rest then
      if key.isScalar then return some (key, rest) else throw .malformed
    else
      set known
      return none
  | _ =>
    set known
    return none

/-- The next token after a value. It must be on another line. -/
def nextLine (rest : List Char) : Except Fault Cursor :=
  let (next, crossed) := toToken false false 1 rest
  if crossed || next.rest.isEmpty then .ok next else .error .malformed

/-- A value without a block structure, and the next line. A bare scalar may go on over lines that
are indented by at least `indent`. -/
def readLeaf (indent : Nat) (c : Cursor) : Reader (Yaml × Cursor) := do
  if startsBare false c.rest then
    let (line, after) := bareLine false c.rest.length c.rest
    let (more, left) := bareMore false indent after.length after
    return (← ofBare (line ++ more), ← nextLine left)
  else
    let (value, left) ← readFlow false (4 * c.rest.length + 4) c.rest
    return (value, ← nextLine left)

mutual

/-- The value that begins here, and the line after it. Bare scalars in it are indented by at least
`indent`; if `block`, it may be a block collection. -/
def readNode (fuel indent : Nat) (block : Bool) (c : Cursor) : Reader (Yaml × Cursor) :=
  match fuel with
  | 0 => throw .malformed
  | fuel + 1 => do
    if c.atDash then
      if block then
        let (items, left) ← readSequence fuel c.column false c
        return (.list items, left)
      else throw .malformed
    else if c.rest.head? == some '&' then
      let (name, after) ← readAnchor (c.rest.drop 1)
      let (next, crossed) := (⟨after, c.column + 1⟩ : Cursor).next
      let (value, left) ←
        if next.isEnd || (crossed && next.column < indent) then pure (Yaml.null, next)
        else readNode fuel indent crossed next
      keep name value
      return (value, left)
    else
      match ← readKey? c with
      | some _ =>
        if block then
          let (entries, left) ← readMapping fuel c.column [] c
          return (.map entries, left)
        else throw .malformed
      | none => readLeaf indent c

/-- The entries of a block sequence at a column. A sequence that belongs to a key of the same column
ends where the next key begins. -/
def readSequence (fuel column : Nat) (ofKey : Bool) (c : Cursor) : Reader (List Yaml × Cursor) :=
  match fuel with
  | 0 => throw .malformed
  | fuel + 1 => do
    let (start, crossed) := (⟨c.rest.drop 1, column + 1⟩ : Cursor).next
    let (item, after) ←
      if start.isEnd || (crossed && start.column ≤ column) then pure (Yaml.null, start)
      else readNode fuel (column + 1) true start
    if after.isEnd || after.column < column then return ([item], after)
    else if after.column = column && after.atDash then
      let (items, left) ← readSequence fuel column ofKey after
      return (item :: items, left)
    else if after.column = column && ofKey then return ([item], after)
    else throw .malformed

/-- The entries of a block mapping at a column, after those that have been read. -/
def readMapping (fuel column : Nat) (entries : List (Yaml × Yaml)) (c : Cursor) :
    Reader (List (Yaml × Yaml) × Cursor) :=
  match fuel with
  | 0 => throw .malformed
  | fuel + 1 => do
    match ← readKey? c with
    | none => throw .malformed
    | some (key, rest) =>
      let (start, crossed) := (⟨rest, column + 1⟩ : Cursor).next
      let (value, after) ←
        if start.isEnd then pure (Yaml.null, start)
        else if !crossed then readNode fuel (column + 1) false start
        else if start.column = column && start.atDash then do
          let (items, left) ← readSequence fuel column true start
          pure (.list items, left)
        else if start.column ≤ column then pure (Yaml.null, start)
        else readNode fuel (column + 1) true start
      let known := put key value entries
      if after.isEnd || after.column < column then return (known, after)
      else if after.column = column then readMapping fuel column known after
      else throw .malformed

end

/-- The text without the mark that says that it is one. -/
def withoutMark (s : List Char) : List Char := if s.head? == some '\uFEFF' then s.drop 1 else s

/-- Whether a character may stand in a text. -/
def isAllowed (c : Char) : Bool :=
  let n := c.toNat
  n = 9 || n = 10 || n = 13 || n = 0x85 || (0x20 ≤ n && n ≤ 0x7e) || (0xa0 ≤ n && n ≤ 0xfffd)
    || 0x10000 ≤ n

/-- The beginning of the document: a mark on a line of its own may come first. -/
def documentStart (s : List Char) : Cursor × Bool :=
  let (c, _) := toToken false true 0 s
  if c.column = 0 && ['-', '-', '-'].isPrefixOf c.rest && atSeparator (c.rest.drop 3) then
    toToken false false 3 (c.rest.drop 3)
  else (c, true)

/-- Whether nothing comes after the end of the document. -/
def endsWell (c : Cursor) : Bool :=
  c.rest.isEmpty
    || (['.', '.', '.'].isPrefixOf c.rest && (toToken false false 3 (c.rest.drop 3)).1.rest.isEmpty)

/-- The document of a text; null if there is none. -/
def read (s : List Char) : Except Fault Yaml := do
  if !s.all isAllowed then throw .malformed
  let (start, block) := documentStart (withoutMark s)
  if start.isEnd then
    if endsWell start then return .null else throw .malformed
  let (value, rest) ← (readNode (s.length + 2) 0 block start).run' []
  if rest.isEnd && endsWell rest then return value else throw .malformed

end Diagnosis.Yaml
