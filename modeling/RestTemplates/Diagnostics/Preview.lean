import RestTemplates.Base64

/-!
# Previews — the start of a body in a line

A body is shown as text or in Base64, cut to a number of characters and followed by an ellipsis if
something is left out.  Only as many bytes are looked at as can be shown.
-/

namespace RestTemplates

/-- How a body is shown. -/
inductive BodyFormat
  | binary
  | text
  deriving DecidableEq, Repr

namespace Preview

/-- The greatest number of 64 bits, at which products stop. -/
def wordMax : Nat := 18446744073709551615

/-- The number of bytes that can matter for so many characters: a character of text has at most four
bytes, and four characters of Base64 show three. -/
def window (format : BodyFormat) (maxChars : Nat) : Nat :=
  match format with
  | .text => max 1 (min wordMax (maxChars * 4))
  | .binary => max 1 ((min wordMax (maxChars * 3) + 3) / 4)

def render (format : BodyFormat) (bytes : Bytes) : List Char :=
  match format with
  | .text => (Utf8.decodeLossy bytes).toList
  | .binary => Base64.encodeChars bytes

/-- The first characters, and an ellipsis if there are more. -/
def shorten (shown : List Char) (maxChars : Nat) : List Char :=
  shown.take maxChars ++ if shown.length > maxChars then ['…'] else []

def chars (format : BodyFormat) (bytes : Bytes) (maxChars : Nat) : List Char :=
  if maxChars = 0 then []
  else
    let start := bytes.take (window format maxChars)
    let shown := shorten (render format start) maxChars
    if start.length < bytes.length ∧ shown.getLast? ≠ some '…' then shown ++ ['…'] else shown

def text (format : BodyFormat) (bytes : Bytes) (maxChars : Nat) : String :=
  String.ofList (chars format bytes maxChars)

end Preview

end RestTemplates
