import Watchpost.Http.Header
import Watchpost.Url.Basic

set_option autoImplicit false

/-! # Requests of HTTP

A request, and how it is written for a connection that is closed after its answer. -/

namespace Watchpost.Http

/-- A request that can be sent. -/
structure Request where
  method : String
  url : Url
  headers : Headers
  body : String
deriving DecidableEq, Repr

/-- The end of a line. -/
def lineBreak : String := "\r\n"

/-- What a request asks for: the path and the query of its URL. -/
def Request.target (r : Request) : String :=
  let path := if r.url.path.isEmpty then ['/'] else r.url.path
  String.ofList (path ++ r.url.query.elim [] ('?' :: ·))

/-- The headers that a request is sent with. -/
def Request.sentHeaders (r : Request) : Headers :=
  [("host", String.ofList r.url.place), ("accept", "*/*"), ("connection", "close"),
    ("content-length", r.body.utf8ByteSize.repr)].foldl (fun hs h => hs.put h.1 h.2) r.headers

/-- The text of a request. -/
def Request.text (r : Request) : String :=
  r.method ++ " " ++ r.target ++ " HTTP/1.1" ++ lineBreak ++
    String.join (r.sentHeaders.map fun (name, value) => name ++ ": " ++ value ++ lineBreak) ++
    lineBreak ++ r.body

end Watchpost.Http
