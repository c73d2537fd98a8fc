import Diagnosis.Http.Form
import Diagnosis.Http.Header
import Diagnosis.Text.Lines

/-!
# Forms in parts

A form with files travels in parts between boundary lines, each with headers of its own. A part that
is cut short is left out, and so is whatever stands behind the last boundary.
-/

namespace Diagnosis.Http

open Diagnosis.Text

/-- Why reading parts stops. -/
inductive PartStop where
  /-- The body has come to its end. -/
  | ended
  /-- The form cannot be read. -/
  | faulty (fault : FormFault)
  deriving Repr, DecidableEq

/-- What comes behind the expected bytes. -/
def expect : Bytes → Bytes → Except PartStop Bytes
  | [], rest => .ok rest
  | _ :: _, [] => .error .ended
  | e :: es, b :: rest => if b = e then expect es rest else .error (.faulty .malformed)

/-- A carriage return. -/
def carriageReturn : UInt8 := 13

/-- A line feed. -/
def lineFeed : UInt8 := 10

/-- A carriage return and a line feed. -/
def lineEnd : Bytes := [carriageReturn, lineFeed]

/-- Two hyphens. -/
def hyphens : Bytes := encodeString "--"

/-- Whether a byte may stand in the name of a header. -/
def isTokenByte (b : UInt8) : Bool :=
  let c := Char.ofNat b.toNat
  c.isAlphanum || "!#$%&'*+-.^_\x60|~".toList.contains c

/-- The name and the value of a header, and what comes behind it. -/
def readPartHeader (bytes : Bytes) : Except PartStop ((Bytes × Bytes) × Bytes) := do
  let name := bytes.takeWhile isTokenByte
  match bytes.dropWhile isTokenByte with
  | [] => .error .ended
  | b :: rest =>
    if b ≠ 58 ∨ name.isEmpty then .error (.faulty .malformed)
    else
      let written := rest.dropWhile (· = 32)
      let value := written.takeWhile (· ≠ carriageReturn)
      return ((name, value), ← expect lineEnd (written.dropWhile (· ≠ carriageReturn)))

/-- The headers of a part, of at most the given number, and what comes behind the empty line after
them. -/
def readPartHeaders : Nat → Bytes → Except PartStop (List (Bytes × Bytes) × Bytes)
  | 0, _ => .error .ended
  | fuel + 1, bytes =>
    if bytes.head? == some carriageReturn then (([], ·)) <$> expect lineEnd bytes
    else do
      let (header, rest) ← readPartHeader bytes
      let (headers, rest) ← readPartHeaders fuel rest
      return (header :: headers, rest)

/-- The data before the next boundary, whether it is the last one, and what comes behind it. The
boundary is at the start of a line, and at the end of one unless hyphens follow it. -/
def splitPart (boundary : Bytes) : Bytes → Except PartStop (Bytes × Bool × Bytes)
  | [] => .error .ended
  | b :: rest =>
    let behind :=
      if boundary.isPrefixOf (b :: rest) then (b :: rest).drop boundary.length else []
    if lineEnd.isPrefixOf behind then .ok ([], false, behind.drop 2)
    else if hyphens.isPrefixOf behind then .ok ([], true, behind.drop 2)
    else do
      let (data, last, behind) ← splitPart boundary rest
      return (b :: data, last, behind)

/-- The text of a field, given the character set. -/
def fieldText (utf8 : Bool) (bytes : Bytes) : String :=
  String.ofList (if utf8 then decodeOrLatin bytes else latin bytes)

/-- A file name without the directories that some browsers on Windows send along. -/
def withoutDrive (name : List Char) : List Char :=
  if (name.drop 1).take 2 = [':', '\\'] ∨ name.take 2 = ['\\', '\\'] then
    (splitAt '\\' name).getLast?.getD []
  else name

/-- The last disposition among headers. -/
def disposition (headers : List (Bytes × Bytes)) : Header :=
  let wanted := headers.filter fun h =>
    lower (String.ofList (latin h.1)) == "content-disposition"
  Header.read ((wanted.getLast?.map fun h => latin h.2).getD [])

/-- The name of a part, and the name of its file if it is one. -/
def partNames (utf8 : Bool) (headers : List (Bytes × Bytes)) :
    Except PartStop (String × Option String) :=
  let header := disposition headers
  match header.option? "name" with
  | none => .error (.faulty .noName)
  | some name =>
    let filename := (header.option? "filename").map fun f =>
      fieldText utf8 (latinBytes (withoutDrive f))
    .ok (fieldText utf8 (latinBytes name), filename)

/-- The fault of one part too many, given the parts before it. -/
def checkCount (before : Form) (isFile : Bool) : Except PartStop Unit :=
  if (before.filter fun f => f.2.isFile == isFile).length < fieldLimit then .ok ()
  else .error (.faulty (if isFile then .tooManyFiles else .tooManyTexts))

/-- The value of a part. -/
def partValue (utf8 : Bool) (filename : Option String) (data : Bytes) :
    Except PartStop FieldValue :=
  match filename with
  | some filename => .ok (.file filename data)
  | none =>
    if textLimit * 1024 < data.length then .error (.faulty .textTooLong)
    else .ok (.text (fieldText utf8 data))

/-- A part, whether it is the last one, and what comes behind it. -/
def readPart (utf8 : Bool) (boundary : Bytes) (before : Form) (bytes : Bytes) :
    Except PartStop ((String × FieldValue) × Bool × Bytes) := do
  let (headers, rest) ← readPartHeaders (bytes.length + 1) bytes
  let (name, filename) ← partNames utf8 headers
  checkCount before filename.isSome
  let (data, last, rest) ← splitPart boundary rest
  return ((name, ← partValue utf8 filename data), last, rest)

/-- The parts, of at most the given number, behind those before them. -/
def readParts (utf8 : Bool) (boundary : Bytes) : Nat → Form → Bytes → Except FormFault Form
  | 0, before, _ => .ok before
  | fuel + 1, before, bytes =>
    match readPart utf8 boundary before bytes with
    | .error .ended => .ok before
    | .error (.faulty fault) => .error fault
    | .ok (part, true, _) => .ok (before ++ [part])
    | .ok (part, false, rest) => readParts utf8 boundary fuel (before ++ [part]) rest

/-- What comes behind the first boundary, if parts do. -/
def afterFirst (boundary body : Bytes) : Except PartStop Bytes := do
  let rest ← expect (hyphens ++ boundary)
    (body.dropWhile fun b => b = carriageReturn || b = lineFeed)
  if rest.head? == hyphens.head? then
    let _ ← expect hyphens rest
    .error .ended
  else expect lineEnd rest

/-- Whether a character set is UTF-8. -/
def isUtf8Name (name : List Char) : Bool :=
  ["utf8", "u8", "utf", "cp65001"].contains
    (lower (String.ofList (name.filter (·.isAlphanum))))

/-- The form that a body in parts holds, given its content type. -/
def readMultipart (contentType : Header) (body : Bytes) : Except FormFault Form :=
  match contentType.option? "boundary" with
  | none => .error .noBoundary
  | some name =>
    let boundary := latinBytes name
    let utf8 := isUtf8Name ((contentType.option? "charset").getD "utf8".toList)
    match afterFirst boundary body with
    | .error .ended => .ok []
    | .error (.faulty fault) => .error fault
    | .ok rest => readParts utf8 (lineEnd ++ hyphens ++ boundary) (body.length + 1) [] rest

end Diagnosis.Http
