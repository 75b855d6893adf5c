import RestTemplates.Percent

/-!
# URL paths — segments and moves

The path of a URL is written as segments, each after a slash.  Reading a text as a path, a backslash
counts as a slash, tabs and line ends are skipped, the segments `.` and `..` move within the path in
each of their spellings, and characters that a path cannot hold are escaped.

This file defines:

* `UrlPath.enter`, the effect of one segment on those before it,
* `UrlPath.normalize`, the path of a text.
-/

namespace RestTemplates

namespace UrlPath

/-! ## Characters -/

/-- Tabs and line ends are skipped wherever they stand in a URL. -/
def isSkipped (c : Char) : Bool := c = '\t' || c = '\n' || c = '\r'

/-- The bytes that a path holds unescaped. -/
def isKept (b : UInt8) : Bool :=
  0x21 ≤ b && b ≤ 0x7E &&
    !(b = 0x22 || b = 0x23 || b = 0x3C || b = 0x3E || b = 0x3F || b = 0x60 || b = 0x7B || b = 0x7D)

def encodeSegment (segment : List Char) : List Char :=
  Percent.encode isKept (Utf8.encode (String.ofList segment))

/-! ## Segments -/

/-- The text after a leading dot, which may be spelled as an escape. -/
def dropDot? : List Char → Option (List Char)
  | '.' :: rest => some rest
  | '%' :: '2' :: 'e' :: rest => some rest
  | '%' :: '2' :: 'E' :: rest => some rest
  | _ => none

def isSingleDot (segment : List Char) : Bool := dropDot? segment = some []

def isDoubleDot (segment : List Char) : Bool := (dropDot? segment).bind dropDot? = some []

/-- A letter and a colon or bar; a move up does not leave such a segment. -/
def isDriveLetter : List Char → Bool
  | [letter, mark] => letter.isAlpha && (mark = ':' || mark = '|')
  | _ => false

/-! ## Moves

The segments that a text has reached are held in reverse, the last one first. -/

/-- The segments after one move up. -/
def leave : List (List Char) → List (List Char)
  | [] => []
  | last :: before => if isDriveLetter last then last :: before else before

/-- The segments after one more, each of them followed by a slash. -/
def enter (reached : List (List Char)) (segment : List Char) : List (List Char) :=
  if isDoubleDot segment then leave reached
  else if isSingleDot segment then reached
  else encodeSegment segment :: reached

/-- The segments after the last one, which no slash follows; a move leaves it empty. -/
def close (reached : List (List Char)) (segment : List Char) : List (List Char) :=
  if isDoubleDot segment then [] :: leave reached
  else if isSingleDot segment then [] :: reached
  else encodeSegment segment :: reached

/-! ## Paths -/

/-- The segments of a text; one leading slash opens the first of them. -/
def split (text : List Char) : List (List Char) :=
  let slashed := (text.filter fun c => !isSkipped c).map fun c => if c = '\\' then '/' else c
  match slashed with
  | '/' :: rest => rest.splitOn '/'
  | rest => rest.splitOn '/'

def join (segments : List (List Char)) : List Char := segments.flatMap ('/' :: ·)

/-- The path that a text is read as. -/
def normalize (text : List Char) : List Char :=
  let segments := split text
  join (close (segments.dropLast.foldl enter []) (segments.getLast?.getD [])).reverse

end UrlPath

end RestTemplates
