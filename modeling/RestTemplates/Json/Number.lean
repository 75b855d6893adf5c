import RestTemplates.Decimal.Shortest

/-!
# JSON numbers — integers of 64 bits and numbers of double precision

An integer that fits in 64 bits, with or without sign, stays an integer; every other number is one
of double precision.  The text of the latter always shows that it is no integer.
-/

namespace RestTemplates

inductive JsonNumber
  | integer (n : Int)
  | float (negative : Bool) (magnitude : Binary64)
  deriving DecidableEq, Repr

namespace JsonNumber

/-- Digits with a point, from 10^-5 to below 10^16; scientific notation with a signed exponent
elsewhere. -/
def decimalText (d : Decimal) : String :=
  let digits := Nat.toDigits 10 d.digits
  let leading : Int := digits.length + d.exponent - 1
  let zeros (n : Int) : List Char := List.replicate n.toNat '0'
  String.ofList <|
    if -5 ≤ leading ∧ leading ≤ 15 then
      if d.exponent ≥ 0 then digits ++ zeros d.exponent ++ ['.', '0']
      else if leading ≥ 0 then
        digits.take (leading.toNat + 1) ++ '.' :: digits.drop (leading.toNat + 1)
      else '0' :: '.' :: zeros (-leading - 1) ++ digits
    else
      let fraction := if digits.length = 1 then [] else '.' :: digits.drop 1
      let sign := if leading ≥ 0 then '+' else '-'
      digits.take 1 ++ fraction ++ 'e' :: sign :: Nat.toDigits 10 leading.natAbs

def magnitudeText (x : Binary64) : String :=
  if x.mantissa = 0 then "0.0" else decimalText (Decimal.shortest x)

def text : JsonNumber → String
  | .integer n => toString n
  | .float negative magnitude => (if negative then "-" else "") ++ magnitudeText magnitude

end JsonNumber

end RestTemplates
