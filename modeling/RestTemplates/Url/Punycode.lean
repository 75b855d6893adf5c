/-!
# Punycode — labels with characters outside ASCII

A label is written as its ASCII characters, a hyphen, and a series of numbers that say where the
other characters go, in the order of their code points.  A number is written in base 36 with the
least digit first; a digit below a threshold ends it.  The thresholds follow a bias that adapts to
the numbers seen so far.

This file defines `Punycode.encode` and `Punycode.decode?`, and for both:

* `threshold` and `adapt`, the rules for the thresholds and the bias,
* `encodeNumber`, the digits of one number.
-/

namespace RestTemplates

namespace Punycode

/-! ## Digits and bias -/

def digit (n : Nat) : Char := Char.ofNat (if n < 26 then 0x61 + n else 0x30 + (n - 26))

def digitValue? (c : Char) : Option Nat :=
  if 'a' ≤ c ∧ c ≤ 'z' then some (c.toNat - 0x61)
  else if 'A' ≤ c ∧ c ≤ 'Z' then some (c.toNat - 0x41)
  else if '0' ≤ c ∧ c ≤ '9' then some (c.toNat - 0x30 + 26)
  else none

/-- The threshold of the digit at a position that counts in steps of 36; from 1 to 26. -/
def threshold (position bias : Nat) : Nat := max 1 (min 26 (position - bias))

theorem threshold_pos (position bias : Nat) : 1 ≤ threshold position bias := Nat.le_max_left ..

/-- The bias for a damped number, in steps of 36 for each division by 35. -/
def settle (n steps : Nat) : Nat :=
  if n > 455 then settle (n / 35) (steps + 36) else steps + 36 * n / (n + 38)
termination_by n
decreasing_by exact Nat.div_lt_self (by omega) (by omega)

/-- The bias after a number; `points` characters are placed so far. -/
def adapt (n points : Nat) (isFirst : Bool) : Nat :=
  let damped := if isFirst then n / 700 else n / 2
  settle (damped + damped / points) 0

/-- The digits of a number from a position on. -/
def encodeNumber (bias position n : Nat) : List Char :=
  let t := threshold position bias
  if n < t then [digit n]
  else digit (t + (n - t) % (36 - t)) :: encodeNumber bias (position + 36) ((n - t) / (36 - t))
termination_by n
decreasing_by
  have h := threshold_pos position bias
  exact Nat.lt_of_le_of_lt (Nat.div_le_self _ _) (by omega)

/-! ## Writing -/

/-- The state of writing: the digits so far, the number to write next, the bias, and how many
characters are placed, and whether a number has been written. -/
structure Writer where
  digits : List Char
  delta : Nat
  bias : Nat
  placed : Nat
  started : Bool

/-- Passes over one character of the label while those of one code point are placed. -/
def Writer.pass (target : Nat) (w : Writer) (c : Char) : Writer :=
  if c.toNat < target then { w with delta := w.delta + 1 }
  else if c.toNat = target then
    { digits := w.digits ++ encodeNumber w.bias 36 w.delta
      delta := 0
      bias := adapt w.delta (w.placed + 1) (!w.started)
      placed := w.placed + 1
      started := true }
  else w

/-- Places the characters of the given code points, which increase from `next` on. -/
def Writer.place (label : List Char) (next : Nat) (w : Writer) : List Nat → Writer
  | [] => w
  | target :: rest =>
    let skipped := { w with delta := w.delta + (target - next) * (w.placed + 1) }
    let passed := label.foldl (Writer.pass target) skipped
    Writer.place label (target + 1) { passed with delta := passed.delta + 1 } rest

def isAscii (c : Char) : Bool := c.toNat < 0x80

/-- The code points outside ASCII, in increasing order and each once. -/
def extended (label : List Char) : List Nat :=
  (((label.filter fun c => !isAscii c).map Char.toNat).mergeSort).eraseDups

def encode (label : List Char) : List Char :=
  let basic := label.filter isAscii
  let written := Writer.place label 0x80 ⟨[], 0, 72, basic.length, false⟩ (extended label)
  (if basic = [] then [] else basic ++ ['-']) ++ written.digits

/-! ## Reading -/

/-- The state of reading: the characters placed so far, the code point and the place reached, the
bias, and of the number being read its sum, the weight of the next digit and its position. -/
structure Reader where
  label : List Char
  codePoint : Nat
  place : Nat
  bias : Nat
  sum : Nat
  weight : Nat
  position : Nat
  started : Bool

/-- Numbers and weights from here on are not read. -/
def limit : Nat := 4294967296

def Reader.digit (r : Reader) (c : Char) : Option Reader := do
  let d ← digitValue? c
  let sum := r.sum + d * r.weight
  guard (r.place + sum < limit)
  let t := threshold r.position r.bias
  if d ≥ t then
    let weight := r.weight * (36 - t)
    guard (weight < limit)
    return { r with sum, weight, position := r.position + 36 }
  else
    let count := r.label.length + 1
    let reached := r.place + sum
    let codePoint := r.codePoint + reached / count
    guard codePoint.isValidChar
    return {
      label := r.label.insertIdx (reached % count) (Char.ofNat codePoint)
      codePoint
      place := reached % count + 1
      bias := adapt sum count (!r.started)
      sum := 0
      weight := 1
      position := 36
      started := true }

/-- The last hyphen separates the ASCII characters from the digits; a hyphen with no characters
before it separates nothing. -/
def splitBasic (text : List Char) : List Char × List Char :=
  let digits := (text.reverse.takeWhile (· ≠ '-')).reverse
  let basic := text.take (text.length - digits.length - 1)
  if basic = [] then ([], text) else (basic, digits)

/-- The label of a written form; `none` if it is no written form. -/
def decode? (text : List Char) : Option (List Char) := do
  let (basic, digits) := splitBasic text
  guard (basic.all isAscii)
  let read ← digits.foldlM Reader.digit ⟨basic, 0x80, 0, 72, 0, 1, 36, false⟩
  guard (read.position = 36)
  return read.label

end Punycode

end RestTemplates
