import Watchpost.Url.Host

set_option autoImplicit false

/-! # URLs

`Url.read?` reads an absolute URL with a host and brings it to its normal form: scheme and host in
small letters, standard ports left out, dot segments of the path resolved, and characters that may
not stand for themselves percent-encoded. `Url.text` writes it. -/

namespace Watchpost

/-- An absolute URL with a host, in normal form. -/
structure Url where
  scheme : List Char
  username : List Char
  password : List Char
  host : List Char
  port : Option Nat
  path : List Char
  query : Option (List Char)
  fragment : Option (List Char)
deriving DecidableEq, Repr

namespace Url

/-! ## Schemes -/

/-- The schemes of the web, with their standard ports. -/
def specialSchemes : List (String × Option Nat) :=
  [("http", some 80), ("https", some 443), ("ws", some 80), ("wss", some 443), ("ftp", some 21),
   ("file", none)]

/-- Whether a scheme is one of those of the web. -/
def isSpecial (scheme : List Char) : Bool :=
  (specialSchemes.lookup (String.ofList scheme)).isSome

/-- The standard port of a scheme. -/
def standardPort (scheme : List Char) : Option Nat :=
  (specialSchemes.lookup (String.ofList scheme)).join

/-- Whether a character may stand in a scheme after its first letter. -/
def isSchemeChar (c : Char) : Bool :=
  c.isAlphanum || c == '+' || c == '-' || c == '.'

/-- Split the scheme off a text. -/
def scheme? (cs : List Char) : Option (List Char × List Char) :=
  match cs with
  | c :: _ =>
    if c.isAlpha then
      match cs.dropWhile isSchemeChar with
      | ':' :: rest => some ((cs.takeWhile isSchemeChar).map Char.toLower, rest)
      | _ => none
    else none
  | [] => none

/-! ## Paths -/

/-- Whether a segment stands for its own directory. -/
def isDot (segment : List Char) : Bool :=
  [".", "%2e"].contains (String.ofList (segment.map Char.toLower))

/-- Whether a segment stands for the directory above. -/
def isDoubleDot (segment : List Char) : Bool :=
  ["..", ".%2e", "%2e.", "%2e%2e"].contains (String.ofList (segment.map Char.toLower))

/-- Resolve the dot segments of a path; `before` holds the segments so far, the last one first. -/
def resolveDots (before : List (List Char)) : List (List Char) → List (List Char)
  | [] => before.reverse
  | [last] =>
    if isDoubleDot last then ([] :: before.tail).reverse
    else if isDot last then ([] :: before).reverse
    else (last :: before).reverse
  | segment :: rest =>
    if isDoubleDot segment then resolveDots before.tail rest
    else if isDot segment then resolveDots before rest
    else resolveDots (segment :: before) rest

/-- Split a text at every character of a set. -/
def splitWhere (mark : CharSet) : List Char → List (List Char)
  | [] => [[]]
  | c :: rest =>
    match splitWhere mark rest with
    | [] => [[c]]
    | part :: parts => if mark c then [] :: part :: parts else (c :: part) :: parts

/-- Whether a character separates the segments of a path. -/
def isSlash (special : Bool) : CharSet := fun c => c == '/' || (special && c == '\\')

/-- The normal form of a path. -/
def normalPath (special : Bool) (cs : List Char) : List Char :=
  match cs with
  | [] => if special then ['/'] else []
  | c :: rest =>
    let inner := if isSlash special c then rest else cs
    let segments := (splitWhere (isSlash special) inner).map (encode pathSet)
    (resolveDots [] segments).flatMap ('/' :: ·)

/-! ## Authorities -/

/-- Split a text at the last occurrence of a character. -/
def splitAtLast (mark : Char) (cs : List Char) : Option (List Char × List Char) :=
  if cs.contains mark then
    let tail := (cs.reverse.takeWhile (· != mark)).reverse
    some (cs.take (cs.length - tail.length - 1), tail)
  else none

/-- Split the port off a host; a colon within brackets is part of the host. -/
def splitPort (cs : List Char) : List Char × List Char :=
  match cs with
  | '[' :: _ =>
    let host := cs.takeWhile (· != ']')
    (cs.take (host.length + 1), cs.drop (host.length + 1))
  | _ => (cs.takeWhile (· != ':'), cs.dropWhile (· != ':'))

/-- Read a port behind its colon; the standard one of the scheme is left out. -/
def port? (scheme : List Char) (cs : List Char) : Option (Option Nat) :=
  match cs with
  | [] | [':'] => some none
  | ':' :: ds =>
    if ds.all Char.isDigit then
      let n := Text.decimalValue ds
      if 65535 < n then none
      else if standardPort scheme == some n then some none else some (some n)
    else none
  | _ => none

/-- Read user name, password, host and port. -/
def authority? (scheme cs : List Char) : Option (List Char × List Char × List Char × Option Nat) :=
  let (user, rest) := (splitAtLast '@' cs).getD ([], cs)
  let (name, word) := (user.takeWhile (· != ':'), (user.dropWhile (· != ':')).drop 1)
  let (host, port) := splitPort rest
  if scheme == "file".toList && (cs.contains '@' || !port.isEmpty || host == "localhost".toList)
  then none
  else do
    let host ← host? (isSpecial scheme) host
    return (encode userSet name, encode userSet word, host, ← port? scheme port)

/-! ## Reading and writing -/

/-- Drop the characters that are skipped in a URL: blanks and controls at both ends, and line ends
    and tabs everywhere. -/
def clean (cs : List Char) : List Char :=
  let skipped (c : Char) : Bool := c.toNat ≤ 0x20
  let inner := ((cs.dropWhile skipped).reverse.dropWhile skipped).reverse
  inner.filter fun c => !(c == '\t' || c == '\n' || c == '\r')

/-- Drop the slashes in front of an authority. The schemes of the web may have any number of them,
    files and all others exactly two. -/
def afterSlashes? (scheme cs : List Char) : Option (List Char) :=
  let special := isSpecial scheme
  if special && scheme != "file".toList then some (cs.dropWhile (isSlash true))
  else
    match cs with
    | a :: b :: rest => if isSlash special a && isSlash special b then some rest else none
    | _ => none

/-- Read an absolute URL with a host. -/
def read? (s : String) : Option Url := do
  let (scheme, rest) ← scheme? (clean s.toList)
  let special := isSpecial scheme
  let rest ← afterSlashes? scheme rest
  let (front, fragment) := match rest.dropWhile (· != '#') with
    | [] => (rest, none)
    | _ :: tail => (rest.takeWhile (· != '#'), some tail)
  let (front, query) := match front.dropWhile (· != '?') with
    | [] => (front, none)
    | _ :: tail => (front.takeWhile (· != '?'), some tail)
  let isEnd := isSlash special
  let (username, password, host, port) ← authority? scheme (front.takeWhile (!isEnd ·))
  return { scheme := scheme
           username := username
           password := password
           host := host
           port := port
           path := normalPath special (front.dropWhile (!isEnd ·))
           query := query.map (encode (querySet special))
           fragment := fragment.map (encode fragmentSet) }

/-- User name and password as they stand in front of the host. -/
def userText (u : Url) : List Char :=
  if u.username.isEmpty && u.password.isEmpty then []
  else
    u.username ++ (if u.password.isEmpty then [] else ':' :: u.password) ++ ['@']

/-- The path, query and fragment of a URL. -/
def tail (u : Url) : List Char :=
  u.path ++ (u.query.elim [] ('?' :: ·)) ++ (u.fragment.elim [] ('#' :: ·))

/-- Host and port. -/
def place (u : Url) : List Char :=
  u.host ++ u.port.elim [] (fun n => ':' :: Text.decimal n)

/-- The text of a URL. -/
def text (u : Url) : String :=
  String.ofList (u.scheme ++ "://".toList ++ u.userText ++ u.place ++ u.tail)

/-- A URL without user name and password. -/
def withoutUser (u : Url) : Url :=
  { u with username := [], password := [] }

/-- User name and password in plain, if there are any. -/
def user? (u : Url) : Option (String × String) :=
  if u.username.isEmpty && u.password.isEmpty then none
  else do return (← decodeText? u.username, (decodeText? u.password).getD "")

end Url

end Watchpost
