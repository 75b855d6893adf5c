import RestTemplates.Form
import RestTemplates.Url.Host
import RestTemplates.Url.Path

/-!
# Url — URLs of the schemes `http` and `https`

This file defines:

* `Url`, its parts, and `Url.text`,
* `Url.parse`, which reads what follows the scheme and its colon,
* `Url.setPath` and `Url.setQuery`, and `Url.queryPairs`.
-/

namespace RestTemplates

inductive Scheme
  | http
  | https
  deriving DecidableEq, Repr

namespace Scheme

def text : Scheme → String
  | .http => "http"
  | .https => "https"

/-- The port that is not written. -/
def defaultPort : Scheme → Nat
  | .http => 80
  | .https => 443

end Scheme

/-- The parts of a URL; user name, password, path, query and fragment are in their escaped form. -/
structure Url where
  scheme : Scheme
  username : String
  password : Option String
  host : Host
  port : Option Nat
  path : String
  query : Option String
  fragment : Option String
  deriving DecidableEq, Repr

namespace Url

/-! ## Text -/

/-- User name and password before the host, if there are any. -/
def credentials (u : Url) : String :=
  match u.password with
  | some password => u.username ++ ":" ++ password ++ "@"
  | none => if u.username = "" then "" else u.username ++ "@"

/-- The text of a URL up to its path. -/
def origin (u : Url) : String :=
  u.scheme.text ++ "://" ++ u.credentials ++ u.host.text ++
    (match u.port with | some port => ":" ++ toString port | none => "")

def text (u : Url) : String :=
  u.origin ++ u.path ++ (match u.query with | some query => "?" ++ query | none => "") ++
    (match u.fragment with | some fragment => "#" ++ fragment | none => "")

/-! ## Parts -/

/-- The bytes that a query holds unescaped. -/
def isQueryByte (b : UInt8) : Bool :=
  0x21 ≤ b && b ≤ 0x7E && !(b = 0x22 || b = 0x23 || b = 0x27 || b = 0x3C || b = 0x3E)

/-- The bytes that a fragment holds unescaped. -/
def isFragmentByte (b : UInt8) : Bool :=
  0x21 ≤ b && b ≤ 0x7E && !(b = 0x22 || b = 0x3C || b = 0x3E || b = 0x60)

/-- The bytes that a user name or password holds unescaped. -/
def isUserByte (b : UInt8) : Bool :=
  UrlPath.isKept b &&
    !(b = 0x2F || b = 0x3A || b = 0x3B || b = 0x3D || b = 0x40 ||
      (0x5B ≤ b && b ≤ 0x5E) || b = 0x7C)

def encodePart (keep : UInt8 → Bool) (text : List Char) : String :=
  String.ofList
    (Percent.encode keep (Utf8.encode (String.ofList (text.filter fun c => !UrlPath.isSkipped c))))

def setPath (u : Url) (path : String) : Url :=
  { u with path := String.ofList (UrlPath.normalize path.toList) }

def setQuery (u : Url) (query : Option String) : Url :=
  { u with query := query.map fun query => encodePart isQueryByte query.toList }

/-- The decoded pairs of the query. -/
def queryPairs (u : Url) : List (String × String) :=
  match u.query with
  | some query => Form.decode query
  | none => []

/-! ## Reading -/

def isSlash (c : Char) : Bool := c = '/' || c = '\\'

/-- The text before the first character of a kind, and the text from it on. -/
def cutAt (stop : Char → Bool) (cs : List Char) : List Char × List Char :=
  (cs.takeWhile fun c => !stop c, cs.dropWhile fun c => !stop c)

/-- The text before the last `@`, if there is one, and the text after it. -/
def splitCredentials (authority : List Char) : Option (List Char) × List Char :=
  if authority.contains '@' then
    let host := (authority.reverse.takeWhile (· ≠ '@')).reverse
    (some (authority.take (authority.length - host.length - 1)), host)
  else (none, authority)

/-- The host before the first colon outside square brackets, and the port after it. -/
def splitPort (inside : Bool) : List Char → List Char × Option (List Char)
  | [] => ([], none)
  | ':' :: rest =>
    if inside then
      let parts := splitPort inside rest
      (':' :: parts.1, parts.2)
    else ([], some rest)
  | c :: rest =>
    let parts := splitPort (c = '[' || (inside && c ≠ ']')) rest
    (c :: parts.1, parts.2)

/-- A port below 65536; the default one and none at all are not written. -/
def parsePort (scheme : Scheme) (digits : List Char) : Except UrlError (Option Nat) :=
  if digits = [] then .ok none
  else
    match (Ipv4.number? 10 digits).filter (· < 65536) with
    | some port => .ok (if port = scheme.defaultPort then none else some port)
    | none => .error .invalidPort

/-- User name and password at the first colon; an empty password is none. -/
def parseCredentials (text : List Char) : String × Option String :=
  let parts := cutAt (· = ':') text
  let password := parts.2.drop 1
  (encodePart isUserByte parts.1,
    if password = [] then none else some (encodePart isUserByte password))

/-- Reads what follows the scheme and its colon.  Control characters and spaces at the end, tabs and
line ends anywhere, and the number of leading slashes do not count. -/
def parse (scheme : Scheme) (rest : String) : Except UrlError Url := do
  let trimmed := (rest.toList.reverse.dropWhile (· ≤ ' ')).reverse
  let cs := (trimmed.filter fun c => !UrlPath.isSkipped c).dropWhile isSlash
  let (authority, tail) := cutAt (fun c => isSlash c || c = '?' || c = '#') cs
  let (userText, hostPort) := splitCredentials authority
  let (hostText, portText) := splitPort false hostPort
  let host ← Host.parse hostText
  let port ← parsePort scheme (portText.getD [])
  let (beforeFragment, fragment) := cutAt (· = '#') tail
  let (path, query) := cutAt (· = '?') beforeFragment
  let (username, password) := (userText.map parseCredentials).getD ("", none)
  return {
    scheme, username, password, host, port
    path := String.ofList (UrlPath.normalize path)
    query := if query = [] then none else some (encodePart isQueryByte (query.drop 1))
    fragment := if fragment = [] then none else some (encodePart isFragmentByte (fragment.drop 1)) }

end Url

end RestTemplates
