/-!
# Ranges — sets of characters

A set of characters is written as closed ranges of code points in increasing order, in which a range
is found by halving.

This file defines:

* `searchRange?`, the row of a sorted table whose range holds a number,
* `CodeRanges` and `CodeRanges.contains`,
* `RangeTable`, in which each range has a value, and `RangeTable.find?`.
-/

namespace RestTemplates

variable {α : Type}

/-! ## Search -/

/-- The row between two places of a table whose bounds hold the number. -/
def searchRange? (bounds : α → Nat × Nat) (rows : Array α) (n low high : Nat) : Option α :=
  if low < high then
    let middle := (low + high) / 2
    match rows[middle]? with
    | none => none
    | some row =>
      if n < (bounds row).1 then searchRange? bounds rows n low middle
      else if (bounds row).2 < n then searchRange? bounds rows n (middle + 1) high
      else some row
  else none
termination_by high - low

/-! ## Sets -/

/-- Closed ranges of code points, in increasing order. -/
abbrev CodeRanges := Array (Nat × Nat)

/-- Does one of the ranges hold the character? -/
def CodeRanges.contains (ranges : CodeRanges) (c : Char) : Bool :=
  (searchRange? id ranges c.toNat 0 ranges.size).isSome

/-! ## Tables -/

/-- Closed ranges of numbers, in increasing order, each with a value. -/
abbrev RangeTable (α : Type) := Array (Nat × Nat × α)

/-- The value of the range that holds the number. -/
def RangeTable.find? (table : RangeTable α) (n : Nat) : Option α :=
  (searchRange? (fun row => (row.1, row.2.1)) table n 0 table.size).map (·.2.2)

/-- The table of single numbers, no two of them equal, with their values. -/
def RangeTable.ofList (rows : List (Nat × α)) : RangeTable α :=
  ((rows.mergeSort fun a b => a.1 ≤ b.1).map fun row => (row.1, row.1, row.2)).toArray

end RestTemplates
