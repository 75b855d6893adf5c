import RestTemplates.Unicode.Direction

/-!
# Bidi rule — names in scripts of both directions

A name with text that is written from right to left is shown in one way only if each of its labels
has one direction (RFC 5893).  Such a label starts with a letter and ends, marks apart, with a
letter or digit; a label from left to right holds no letters and digits of the other direction, and
a label from right to left holds no letters of the other direction and not both kinds of digits.
-/

namespace RestTemplates

namespace Domain

open Unicode (Direction direction)

/-- Does the label hold text that is written from right to left? -/
def holdsRight (label : List Char) : Bool :=
  label.any fun c => direction c = .right || direction c = .arabic

/-- The direction of the last character that is no mark. -/
def lastDirection? (directions : List Direction) : Option Direction :=
  (directions.filter (· ≠ .mark)).getLast?

def isLeftToRight (directions : List Direction) : Bool :=
  (directions.all fun d => d ≠ .right && d ≠ .arabic) &&
    (lastDirection? directions = some .left || lastDirection? directions = some .european)

def isRightToLeft (directions : List Direction) : Bool :=
  directions.all (· ≠ .left) &&
    !(directions.contains .european && directions.contains .arabic) &&
    lastDirection? directions ≠ some .neutral

/-- Has the label one direction? -/
def hasDirection (label : List Char) : Bool :=
  let directions := label.map direction
  match directions with
  | [] => true
  | .left :: _ => isLeftToRight directions
  | .right :: _ => isRightToLeft directions
  | _ => false

/-- The rule for all labels of a name. -/
def bidiRule (labels : List (List Char)) : Bool := !labels.any holdsRight || labels.all hasDirection

end Domain

end RestTemplates
