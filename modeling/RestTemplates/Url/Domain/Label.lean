import RestTemplates.Unicode.Joining
import RestTemplates.Url.Domain.Mapping
import RestTemplates.Url.Punycode

/-!
# Labels — the parts of a name between its dots

A label of ASCII characters stands for itself, unless it starts with `xn--`: then it has to be the
written form of a label with other characters.  Every other label is written in Punycode after
`xn--`.  No character that separates the parts of a URL may be left over in a label.

This file defines:

* `Domain.isValid`, the rule for labels with characters outside ASCII,
* `Domain.Label` and `Domain.Label.read?`.
-/

namespace RestTemplates

namespace Domain

open Unicode (Joining joining isMark isVirama)

/-! ## Characters -/

/-- Is the ASCII character excluded from names?  Controls, the space, and what delimits the parts of
a URL are. -/
def isForbidden (c : Char) : Bool :=
  c ≤ ' ' || c = '\x7f' ||
    ['%', '#', '/', ':', '<', '>', '?', '@', '[', '\\', ']', '^', '|'].contains c

def nonJoiner : Char := '\u200c'

def joiner : Char := '\u200d'

/-! ## Joiners -/

/-- Is the first letter of one of the given types, marks apart? -/
def connects (types : List Joining) : List Char → Bool
  | [] => false
  | c :: rest =>
    if joining c = .transparent then connects types rest else types.contains (joining c)

/-- A joiner follows a virama; one that separates may also stand between letters that would connect
without it.  The text before it is held in reverse. -/
def allowsJoiner (before : List Char) (c : Char) (after : List Char) : Bool :=
  before.head?.any isVirama ||
    (c = nonJoiner && connects [.leading, .dual] before && connects [.trailing, .dual] after)

/-- Does every joiner stand at its place? -/
def allowsJoiners (before : List Char) : List Char → Bool
  | [] => true
  | c :: after =>
    (!(c = nonJoiner || c = joiner) || allowsJoiner before c after) &&
      allowsJoiners (c :: before) after

/-! ## Labels -/

def encodedMark : List Char := ['x', 'n', '-', '-']

/-- The length up to which a label may be written in Punycode. -/
def maxLength : Nat := 1000

/-- The length up to which the written form of a label is read, without its mark. -/
def maxEncodedLength : Nat := 2000

/-- The rule for labels with characters outside ASCII, in their common form: they are not too long,
do not start like written forms or with a mark, and have joiners only at their places. -/
def isValid (label : List Char) : Bool :=
  label.length ≤ maxLength && label.take 4 ≠ encodedMark && !label.head?.any isMark &&
    allowsJoiners [] label

/-- A label: its characters, and its written form in ASCII. -/
structure Label where
  text : List Char
  ascii : List Char
  deriving DecidableEq, Repr

namespace Label

/-- The label of a written form, which is given with its mark. -/
def ofEncoded? (ascii : List Char) : Option Label := do
  let digits := ascii.drop 4
  guard (digits.length ≤ maxEncodedLength)
  let text ← Punycode.decode? digits
  guard (!text.all Punycode.isAscii && commonForm? text = some text && isValid text)
  return ⟨text, ascii⟩

/-- The label of a text in common form. -/
def read? (text : List Char) : Option Label :=
  if text.any isForbidden then none
  else if text.all Punycode.isAscii then
    if text.take 4 = encodedMark then ofEncoded? text else some ⟨text, text⟩
  else if isValid text then some ⟨text, encodedMark ++ Punycode.encode text⟩
  else none

end Label

end Domain

end RestTemplates
