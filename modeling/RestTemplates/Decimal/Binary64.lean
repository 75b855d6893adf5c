/-!
# Binary64 — non-negative numbers of double precision

A finite non-negative number of double precision is an integer below 2^53 times a power of two.
Arithmetic is exact arithmetic of ratios followed by one rounding to the nearest such number, ties
to the even integer.
-/

namespace RestTemplates

/-- The number `mantissa * 2 ^ exponent`. -/
structure Binary64 where
  mantissa : Nat
  exponent : Int
  deriving DecidableEq, Repr

namespace Binary64

/-! ## Rounding -/

/-- The integer nearest to a ratio, the even one of two. -/
def nearest (num den : Nat) : Nat :=
  let floor := num / den
  let rest := 2 * (num % den)
  if rest < den then floor
  else if rest > den then floor + 1
  else floor + floor % 2

/-- A ratio divided by a power of two. -/
def scaleDown (num den : Nat) (e : Int) : Nat × Nat :=
  if e ≥ 0 then (num, den * Nat.pow 2 e.toNat) else (num * Nat.pow 2 (-e).toNat, den)

/-- The exponent of the greatest power of two that is at most a positive ratio. -/
def floorLog2 (num den : Nat) : Int :=
  let guess : Int := num.log2 - den.log2
  let scaled := scaleDown num den guess
  if scaled.1 ≥ scaled.2 then guess else guess - 1

/-- The number nearest to a ratio; `none` above the greatest number. -/
def ofRatio? (num den : Nat) : Option Binary64 :=
  if num = 0 then some ⟨0, -1074⟩
  else
    let exponent := max (-1074) (floorLog2 num den - 52)
    let scaled := scaleDown num den exponent
    let mantissa := nearest scaled.1 scaled.2
    let rounded : Binary64 :=
      if mantissa = Nat.pow 2 53 then ⟨Nat.pow 2 52, exponent + 1⟩ else ⟨mantissa, exponent⟩
    if rounded.exponent > 971 then none else some rounded

/-! ## Arithmetic -/

def zero : Binary64 := ⟨0, -1074⟩

/-- The number as an exact ratio. -/
def ratio (x : Binary64) : Nat × Nat := scaleDown x.mantissa 1 (-x.exponent)

def ofNat? (n : Nat) : Option Binary64 := ofRatio? n 1

def mul? (x y : Binary64) : Option Binary64 :=
  ofRatio? (x.ratio.1 * y.ratio.1) (x.ratio.2 * y.ratio.2)

def div? (x y : Binary64) : Option Binary64 :=
  ofRatio? (x.ratio.1 * y.ratio.2) (x.ratio.2 * y.ratio.1)

/-- The number `m * 10 ^ exponent` computed from `m` by one multiplication or division by a power of
ten, after divisions by `10 ^ 308` if the exponent is below that range. -/
def scale10? (x : Binary64) (exponent : Int) : Option Binary64 :=
  if exponent > 308 then (if x.mantissa = 0 then some x else none)
  else if exponent ≥ 0 then do x.mul? (← ofNat? (Nat.pow 10 exponent.toNat))
  else if exponent ≥ -308 then do x.div? (← ofNat? (Nat.pow 10 (-exponent).toNat))
  else if x.mantissa = 0 then some x
  else do
    let divided ← x.div? (← ofNat? (Nat.pow 10 308))
    scale10? divided (exponent + 308)
termination_by (-exponent).toNat

end Binary64

end RestTemplates
