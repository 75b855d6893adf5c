import RestTemplates.Text.Utf8

/-!
# Percent — percent-encoding

Bytes that are not kept are written as `%` and two upper-case hexadecimal digits.  Decoding reads
digits of either case and leaves a `%` alone that is not followed by two of them; `wellFormed` says
that there is no such `%`.
-/

namespace RestTemplates

namespace Percent

/-! ## Digits -/

/-- The digit of a number below sixteen. -/
def hexDigit (n : Nat) : Char := Char.ofNat (if n < 10 then 0x30 + n else 0x41 + (n - 10))

def hexValue? (b : UInt8) : Option UInt8 :=
  if 0x30 ≤ b ∧ b ≤ 0x39 then some (b - 0x30)
  else if 0x41 ≤ b ∧ b ≤ 0x46 then some (b - 0x37)
  else if 0x61 ≤ b ∧ b ≤ 0x66 then some (b - 0x57)
  else none

def isHex (b : UInt8) : Bool := (hexValue? b).isSome

/-! ## Encoding -/

def escape (b : UInt8) : List Char := ['%', hexDigit (b.toNat / 16), hexDigit (b.toNat % 16)]

/-- One byte: itself if it is kept, and else its escape. -/
def encodeByte (keep : UInt8 → Bool) (b : UInt8) : List Char :=
  if keep b then [Char.ofNat b.toNat] else escape b

def encode (keep : UInt8 → Bool) (bytes : Bytes) : List Char := bytes.flatMap (encodeByte keep)

def isAlphanumeric (b : UInt8) : Bool :=
  (0x30 ≤ b && b ≤ 0x39) || (0x41 ≤ b && b ≤ 0x5A) || (0x61 ≤ b && b ≤ 0x7A)

/-- Letters, digits and `-`, `.`, `_`, `~`. -/
def isUnreserved (b : UInt8) : Bool :=
  isAlphanumeric b || b = 0x2D || b = 0x2E || b = 0x5F || b = 0x7E

/-! ## Decoding -/

def decode : Bytes → Bytes
  | 0x25 :: high :: low :: rest =>
    match hexValue? high, hexValue? low with
    | some h, some l => (h * 16 + l) :: decode rest
    | _, _ => 0x25 :: decode (high :: low :: rest)
  | b :: rest => b :: decode rest
  | [] => []

/-- Is every `%` followed by two hexadecimal digits? -/
def wellFormed : Bytes → Bool
  | 0x25 :: high :: low :: rest => isHex high && isHex low && wellFormed rest
  | 0x25 :: _ => false
  | _ :: rest => wellFormed rest
  | [] => true

end Percent

end RestTemplates
