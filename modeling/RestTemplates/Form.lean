import RestTemplates.Percent

/-!
# Form — the `application/x-www-form-urlencoded` format

A list of pairs is written as `key=value` joined by `&`; a space becomes `+`, and every byte that is
no letter, digit, `*`, `-`, `.` or `_` becomes an escape.

This file defines:

* `Form.encode`, the written form of a list of pairs,
* `Form.splitPairs`, the written pairs of a text, cut at `&` and at the first `=` of each,
* `Form.decode`, the pairs of a text read leniently.
-/

namespace RestTemplates

namespace Form

/-! ## Writing -/

/-- Letters, digits and `*`, `-`, `.`, `_`. -/
def isKept (b : UInt8) : Bool :=
  Percent.isAlphanumeric b || b = 0x2A || b = 0x2D || b = 0x2E || b = 0x5F

def encodeByte (b : UInt8) : List Char :=
  if b = 0x20 then ['+'] else Percent.encodeByte isKept b

def encodeText (text : String) : List Char := (Utf8.encode text).flatMap encodeByte

def encodePair (pair : String × String) : List Char :=
  encodeText pair.1 ++ '=' :: encodeText pair.2

def encode (pairs : List (String × String)) : String :=
  String.ofList (['&'].intercalate (pairs.map encodePair))

/-! ## Reading -/

/-- The text before the first `=` and the text after it; without one, all of it and nothing. -/
def splitPair (pair : List Char) : List Char × List Char :=
  (pair.takeWhile (· ≠ '='), (pair.dropWhile (· ≠ '=')).drop 1)

/-- The written pairs of a text; empty ones are skipped. -/
def splitPairs (text : String) : List (List Char × List Char) :=
  ((text.toList.splitOn '&').filter (· ≠ [])).map splitPair

def plusToSpace (b : UInt8) : UInt8 := if b = 0x2B then 0x20 else b

/-- The bytes that a written key or value stands for. -/
def decodeBytes (component : List Char) : Bytes :=
  Percent.decode ((Utf8.encode (String.ofList component)).map plusToSpace)

/-- The pairs of a text, where bytes that are no UTF-8 become replacement characters. -/
def decode (text : String) : List (String × String) :=
  (splitPairs text).map fun pair =>
    (Utf8.decodeLossy (decodeBytes pair.1), Utf8.decodeLossy (decodeBytes pair.2))

end Form

end RestTemplates
