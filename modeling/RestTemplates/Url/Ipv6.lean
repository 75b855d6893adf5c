import RestTemplates.Url.Ipv4

/-!
# Ipv6 — addresses of eight groups

An address is eight groups of up to four hexadecimal digits between colons.  One `::` may stand for
one or more groups of zeros, and the last two groups may be written as four decimal bytes.

This file defines:

* `Ipv6.parse?`, the eight numbers of a text,
* `Ipv6.text`, which shortens the first of the longest runs of two or more zeros.
-/

namespace RestTemplates

namespace Ipv6

/-! ## Reading -/

/-- The text before the first `::` and the text after it. -/
def splitGap : List Char → Option (List Char × List Char)
  | ':' :: ':' :: rest => some ([], rest)
  | c :: rest => (splitGap rest).map fun parts => (c :: parts.1, parts.2)
  | [] => none

def group? (digits : List Char) : Option Nat :=
  if 1 ≤ digits.length ∧ digits.length ≤ 4 then Ipv4.number? 16 digits else none

/-- A decimal byte without leading zeros. -/
def byte? (digits : List Char) : Option Nat :=
  if Ipv4.isDecimal digits ∧ (digits.length = 1 ∨ digits.head? ≠ some '0') then
    (Ipv4.number? 10 digits).filter (· < 256)
  else none

/-- The two groups of four decimal bytes. -/
def dotted? (text : List Char) : Option (List Nat) := do
  match ← (text.splitOn '.').mapM byte? with
  | [a, b, c, d] => return [a * 256 + b, c * 256 + d]
  | _ => none

/-- Groups between colons; nothing is no groups. -/
def groups? (text : List Char) : Option (List Nat) :=
  if text = [] then some [] else (text.splitOn ':').mapM group?

/-- Groups between colons, the last of which may be four decimal bytes. -/
def lastGroups? (text : List Char) : Option (List Nat) :=
  let parts := text.splitOn ':'
  match parts.getLast? with
  | some last =>
    if last.contains '.' then do
      return (← parts.dropLast.mapM group?) ++ (← dotted? last)
    else groups? text
  | none => some []

def parse? (text : List Char) : Option (List Nat) := do
  match splitGap text with
  | some (front, back) =>
    let before ← groups? front
    let after ← lastGroups? back
    guard (before.length + after.length ≤ 7)
    return before ++ List.replicate (8 - before.length - after.length) 0 ++ after
  | none =>
    let groups ← lastGroups? text
    guard (groups.length = 8)
    return groups

/-! ## Writing -/

def groupText (n : Nat) : String := String.ofList (Nat.toDigits 16 n)

def join (groups : List Nat) : String := ":".intercalate (groups.map groupText)

/-- The number of zeros from a place on. -/
def zerosFrom (groups : List Nat) (start : Nat) : Nat :=
  ((groups.drop start).takeWhile (· = 0)).length

/-- The start and length of the first of the longest runs of zeros. -/
def longestZeros (groups : List Nat) : Nat × Nat :=
  (List.range groups.length).foldl
    (fun best start =>
      if zerosFrom groups start > best.2 then (start, zerosFrom groups start) else best)
    (0, 0)

def text (groups : List Nat) : String :=
  let run := longestZeros groups
  if run.2 < 2 then join groups
  else join (groups.take run.1) ++ "::" ++ join (groups.drop (run.1 + run.2))

end Ipv6

end RestTemplates
