import Watchpost.Text.Split

set_option autoImplicit false

/-! # Headers and methods of HTTP

Names of headers and methods are made of token characters. A header's name is the same in capitals
and small letters and is kept in small ones; `Headers.put` replaces the value that a name had. -/

namespace Watchpost.Http

/-- Whether a character may stand in a token. -/
def isTokenChar (c : Char) : Bool :=
  c.isAlphanum || "!#$%&'*+-.^_\x60|~".toList.contains c

/-- Whether a text is a token. -/
def isToken (s : String) : Bool :=
  !s.isEmpty && s.toList.all isTokenChar

/-- The method of a name in any case. -/
def method? (name : String) : Option String :=
  let method := name.toUpper
  if isToken method then some method else none

/-- The bytes that the name of a header has at most. -/
def maxHeaderNameLength : Nat := 65535

/-- The name of a header in small letters. -/
def headerName? (name : String) : Option String :=
  if isToken name && name.utf8ByteSize ≤ maxHeaderNameLength then some name.toLower else none

/-- Whether a text may be the value of a header: no control character but the tab. -/
def isHeaderValue (s : String) : Bool :=
  s.toList.all fun c => c == '\t' || (0x20 ≤ c.toNat && c.toNat != 0x7F)

/-- Headers, each name once. -/
abbrev Headers := List (String × String)

namespace Headers

/-- Give a name a value. -/
def put (headers : Headers) (name value : String) : Headers :=
  match headers with
  | [] => [(name, value)]
  | (n, v) :: rest => if n = name then (name, value) :: rest else (n, v) :: put rest name value

/-- The value of a name. -/
def get? (headers : Headers) (name : String) : Option String :=
  headers.lookup name

end Headers

end Watchpost.Http
