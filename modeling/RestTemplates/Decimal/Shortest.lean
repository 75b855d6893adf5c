import RestTemplates.Decimal.Binary64

/-!
# Shortest — the fewest decimal digits that read back

Of the decimals that are nearer to a number of double precision than to any other one, the text of
the number has the fewest digits, and among these it is the nearest.  For each count of digits the
two neighbours of the number on the decimal grid are tested in exact arithmetic.
-/

namespace RestTemplates

/-- The number `digits * 10 ^ exponent`. -/
structure Decimal where
  digits : Nat
  exponent : Int
  deriving DecidableEq, Repr

namespace Decimal

/-- The ratio with the place moved by a power of ten. -/
def shift (num den : Nat) (e : Int) : Nat × Nat :=
  if e ≥ 0 then (num, den * Nat.pow 10 e.toNat) else (num * Nat.pow 10 (-e).toNat, den)

def digitCount (n : Nat) : Nat := (Nat.toDigits 10 n).length

/-- The exponent of the greatest power of ten that is at most a positive ratio. -/
def floorLog10 (num den : Nat) : Int :=
  if num ≥ den then (digitCount (num / den) : Int) - 1
  else
    let guess : Int := (digitCount num : Int) - (digitCount den : Int)
    let moved := shift num den guess
    if moved.1 ≥ moved.2 then guess else guess - 1

/-- Four times a number and the ends of the interval that rounds to it, in units of a power of two,
and whether the ends belong to it. -/
structure Interval where
  low : Nat
  middle : Nat
  high : Nat
  exponent : Int
  closed : Bool

/-- Below a power of two the numbers are twice as dense. -/
def Interval.of (x : Binary64) : Interval :=
  let isBoundary := x.mantissa = Nat.pow 2 52 ∧ x.exponent > -1074
  { low := 4 * x.mantissa - (if isBoundary then 1 else 2)
    middle := 4 * x.mantissa
    high := 4 * x.mantissa + 2
    exponent := x.exponent - 2
    closed := x.mantissa % 2 = 0 }

/-- The unit of an interval as a ratio. -/
def Interval.unit (i : Interval) : Nat × Nat := Binary64.scaleDown 1 1 (-i.exponent)

/-- The exponent of the greatest power of ten that is at most the number. -/
def Interval.magnitude (i : Interval) : Int := floorLog10 (i.middle * i.unit.1) i.unit.2

/-- The neighbour with this many digits that rounds to the number of the given magnitude. -/
def withDigits? (i : Interval) (magnitude : Int) (count : Nat) : Option Decimal :=
  let one := i.unit
  let exponent := magnitude - count + 1
  let unit := shift one.1 one.2 exponent
  let floor := i.middle * unit.1 / unit.2
  let isInside := fun candidate =>
    let scaled := candidate * unit.2
    if i.closed then i.low * unit.1 ≤ scaled && scaled ≤ i.high * unit.1
    else i.low * unit.1 < scaled && scaled < i.high * unit.1
  let below := 2 * (i.middle * unit.1 - floor * unit.2)
  match isInside floor, isInside (floor + 1) with
  | true, true =>
    some ⟨if below < unit.2 ∨ (below = unit.2 ∧ floor % 2 = 0) then floor else floor + 1, exponent⟩
  | true, false => some ⟨floor, exponent⟩
  | false, true => some ⟨floor + 1, exponent⟩
  | false, false => none

/-- Moves zeros at the end of the digits into the exponent. -/
def trim (d : Decimal) : Decimal :=
  if d.digits ≠ 0 ∧ d.digits % 10 = 0 then trim ⟨d.digits / 10, d.exponent + 1⟩ else d
termination_by d.digits
decreasing_by exact Nat.div_lt_self (by omega) (by omega)

/-- The shortest decimal that rounds to a positive number; seventeen digits always do. -/
def shortest (x : Binary64) : Decimal :=
  let i := Interval.of x
  let magnitude := i.magnitude
  let found := (List.range 17).findSome? fun count => withDigits? i magnitude (count + 1)
  trim (found.getD ⟨x.mantissa, 0⟩)

end Decimal

end RestTemplates
