import RestTemplates.MultiMap
import RestTemplates.Text.Utf8

/-!
# Header — names and values of HTTP headers

Header names are tokens that are compared without regard to case and kept in lower case.  Values are
bytes; a value is readable as text if it consists of visible ASCII characters, spaces and tabs.

This file defines:

* `HeaderName` and `HeaderName.parse?`,
* `HeaderName.isSensitive`, which names hold secrets,
* `Headers`, and `Headers.laidOver`, a list laid over default ones.
-/

namespace RestTemplates

/-! ## Names -/

/-- A header name in lower case. -/
abbrev HeaderName := String

namespace HeaderName

def accept : HeaderName := "accept"

def contentType : HeaderName := "content-type"

def isTokenChar (c : Char) : Bool :=
  c.isAlphanum ||
    ['!', '#', '$', '%', '&', '\x27', '*', '+', '-', '.', '^', '_', '\x60', '|', '~'].contains c

/-- The greatest length of a name. -/
def maxLength : Nat := 65535

/-- The name that a token spells. -/
def parse? (text : String) : Option HeaderName :=
  if text ≠ "" ∧ text.length ≤ maxLength ∧ text.toList.all isTokenChar then
    some (text.map Char.toLower)
  else none

/-- Does a text occur inside another? -/
def occursIn (part : List Char) : List Char → Bool
  | [] => part.isEmpty
  | c :: rest => part.isPrefixOf (c :: rest) || occursIn part rest

theorem occursIn_iff {part cs : List Char} : occursIn part cs = true ↔ part <:+: cs := by
  induction cs with
  | nil => rw [occursIn, List.isEmpty_iff, List.infix_nil]
  | cons c rest ih =>
    rw [occursIn, Bool.or_eq_true, List.isPrefixOf_iff_prefix, ih, List.infix_cons_iff]

/-- Names of credentials: their values are never shown. -/
def isSensitive (name : HeaderName) : Bool :=
  ["authorization", "proxy-authorization", "cookie", "set-cookie"].contains name ||
    ["token", "secret", "api-key", "apikey"].any (fun part => occursIn part.toList name.toList) ||
    "-key".toList.isSuffixOf name.toList

end HeaderName

/-! ## Values -/

abbrev HeaderValue := Bytes

namespace HeaderValue

def isReadable (value : HeaderValue) : Bool := value.all fun b => b = 0x9 || (0x20 ≤ b && b ≤ 0x7E)

/-- The text of a value that is readable. -/
def text? (value : HeaderValue) : Option String :=
  if isReadable value then some (String.ofList (value.map fun b => Char.ofNat b.toNat)) else none

end HeaderValue

/-! ## Lists -/

/-- The headers of a message: each name with its values. -/
abbrev Headers := MultiMap HeaderValue

namespace Headers

/-- The number of header lines. -/
def count (headers : Headers) : Nat := headers.pairs.length

/-- Gives a name exactly one value. -/
def set (headers : Headers) (name : HeaderName) (value : HeaderValue) : Headers :=
  headers.replace name [value]

/-- The text of the first value of a name, if it is readable. -/
def text? (headers : Headers) (name : HeaderName) : Option String :=
  (headers.first? name).bind HeaderValue.text?

/-- The defaults, where each name that has own values has these instead. -/
def laidOver (own defaults : Headers) : Headers := defaults.mergeWith (fun _ given => given) own

end Headers

end RestTemplates
