import Diagnosis.Http.Form.Parts
import Diagnosis.Http.Percent

/-!
# Reading forms

The content type of a body says how its form travels: in parts, or plain. A form of texts alone may
travel as one line: fields `name=value` between ampersands, with percent escapes. A field at the end
without an equals sign is left out.
-/

namespace Diagnosis.Http

open Diagnosis.Text

/-! ## Plain forms -/

/-- Whether a character separates fields. -/
def isSeparator (c : Char) : Bool := c = '&' || c = ';'

/-- The characters of a field and what comes behind it. Semicolons separate fields only behind the
last ampersand. -/
def splitField (s : List Char) : List Char × List Char :=
  let mark := if s.contains '&' then '&' else ';'
  (s.takeWhile (· ≠ mark), s.dropWhile (· ≠ mark))

/-- The fields in the text of a plain form, of at most the given number. One at the end without an
equals sign is left out. -/
def plainFields : Nat → List Char → Form
  | 0, _ => []
  | fuel + 1, s =>
    let (field, rest) := splitField (s.dropWhile isSeparator)
    let name := field.takeWhile (· ≠ '=')
    let value := (field.dropWhile (· ≠ '=')).drop 1
    if rest.isEmpty && !field.contains '=' then []
    else
      (String.ofList (plusDecoded name), .text (String.ofList (plusDecoded value)))
        :: plainFields fuel rest

/-- The form that the body of a plain form holds. -/
def readUrlEncoded (body : Bytes) : Form := plainFields (body.length + 1) (latin body)

/-! ## Forms of either kind -/

/-- The content type of forms in parts. -/
def multipartType : String := "multipart/form-data"

/-- The content type of plain forms. -/
def urlEncodedType : String := "application/x-www-form-urlencoded"

/-- Whether a content type announces a form. -/
def announcesForm (contentType : String) : Bool :=
  contentType.startsWith multipartType || contentType.startsWith urlEncodedType

/-- The form in a body. A content type that only begins like one of a form has an empty one. -/
def readForm (contentType : String) (body : Bytes) : Except FormFault Form :=
  let header := Header.read contentType.toList
  if header.value = multipartType.toList then readMultipart header body
  else if header.value = urlEncodedType.toList then .ok (readUrlEncoded body)
  else .ok []

end Diagnosis.Http
