import RestTemplates.Unicode.Ranges

/-!
# Code tables — replacements of characters, written as text

A large table is written as text, as entries between blanks.  An entry is a key, a colon, and the
code points of the value with plus signs between them; all numbers are hexadecimal.  The key `A-B`
stands for all code points from `A` to `B`, and the key `A~B` for every second one of them; the
value of each is as far from the written one as the code point from `A`.

This file defines `CodeTable` and `CodeTable.ofText`.
-/

namespace RestTemplates

/-- For some code points, the characters that stand for them. -/
abbrev CodeTable := RangeTable (List Char)

namespace CodeTable

/-! ## Entries -/

/-- The value of a decimal digit or a capital letter. -/
def digitValue (c : Char) : Nat := if c ≤ '9' then c.toNat - 0x30 else c.toNat - 0x37

def number (digits : List Char) : Nat := digits.foldl (fun n c => 16 * n + digitValue c) 0

/-- The rows of a run of code points with the given step. -/
def run (first last step : Nat) (value : List Nat) : List (Nat × List Nat) :=
  (List.range ((last - first) / step + 1)).map fun i =>
    (first + step * i, value.map (· + step * i))

/-- The rows of one entry. -/
def rows (entry : List Char) : List (Nat × List Nat) :=
  match entry.splitOn ':' with
  | [key, written] =>
    let value := (written.splitOn '+').map number
    match key.splitOn '-', key.splitOn '~' with
    | [first, last], _ => run (number first) (number last) 1 value
    | _, [first, last] => run (number first) (number last) 2 value
    | _, _ => [(number key, value)]
  | _ => []

/-! ## Tables -/

def ofText (text : String) : CodeTable :=
  let written := (text.toList.splitOnP Char.isWhitespace).flatMap rows
  RangeTable.ofList (written.map fun row => (row.1, row.2.map Char.ofNat))

end CodeTable

end RestTemplates
