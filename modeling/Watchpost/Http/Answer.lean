import Watchpost.Http.Header
import Watchpost.Text.Blank
import Watchpost.Text.Digits
import Watchpost.Text.Split

set_option autoImplicit false

/-! # Answers of HTTP

How the bytes that came back over a connection are read: a status, headers and a body of a stated
length, in chunks, or up to the end. -/

namespace Watchpost.Http

/-- An answer to a request. -/
structure Answer where
  status : Nat
  headers : Headers
  body : List UInt8
deriving DecidableEq, Repr

/-- Bytes as characters, one each. -/
def plainChars (bytes : List UInt8) : List Char :=
  bytes.map fun b => Char.ofNat b.toNat

/-- Split bytes before and after the first occurrence of others. -/
def splitBytes (mark : List UInt8) : List UInt8 → Option (List UInt8 × List UInt8)
  | [] => none
  | b :: rest =>
    if mark.isPrefixOf (b :: rest) then some ([], (b :: rest).drop mark.length)
    else (splitBytes mark rest).map fun (before, after) => (b :: before, after)

/-- The bytes of the end of a line. -/
def breakBytes : List UInt8 := [13, 10]

/-- The text of the body: as UTF-8, or with one character for each byte. -/
def Answer.text (a : Answer) : String :=
  (String.fromUTF8? ⟨a.body.toArray⟩).getD (String.ofList (plainChars a.body))

/-- Put together chunks, each behind a line with its length, up to one without bytes. The fuel is
    the number of bytes. -/
def joinChunks : Nat → List UInt8 → Option (List UInt8)
  | 0, _ => none
  | fuel + 1, bytes => do
    let (size, rest) ← splitBytes breakBytes bytes
    let digits := (plainChars size).takeWhile (· != ';')
    if digits.isEmpty then none
    else
      let length ← Text.ofDigits? 16 digits
      if length = 0 then return []
      else if rest.length < length + 2 then none
      else return rest.take length ++ (← joinChunks fuel (rest.drop (length + 2)))

/-- The header in a line. -/
def readHeader (line : String) : Option (String × String) :=
  (Text.splitAtFirst [':'] line.toList).map fun (name, value) =>
    ((String.ofList name).toLower, Text.trimmed (String.ofList value))

/-- The body in the bytes behind the headers; `none` while some of it is missing. -/
def readBody (headers : Headers) (bytes : List UInt8) : Option (List UInt8) :=
  if headers.get? "transfer-encoding" = some "chunked" then joinChunks (bytes.length + 1) bytes
  else
    match (headers.get? "content-length").bind fun n => Text.readUnsigned? n.toList with
    | none => some bytes
    | some length => if bytes.length < length then none else some (bytes.take length)

/-- Read the answer in all the bytes of a connection. -/
def Answer.read? (bytes : List UInt8) : Option Answer := do
  let (front, rest) ← splitBytes (breakBytes ++ breakBytes) bytes
  let lines := (Text.splitString '\n' (String.ofList (plainChars front))).map Text.trimmed
  match Text.splitString ' ' (lines.headD "") with
  | version :: code :: _ =>
    if "HTTP/".isPrefixOf version then
      let headers := lines.tail.filterMap readHeader
      return ⟨← Text.readUnsigned? code.toList, headers, ← readBody headers rest⟩
    else none
  | _ => none

end Watchpost.Http
