import RestTemplates.Text.Utf8

/-!
# Base64 — the standard alphabet without padding

Three bytes become four characters; one byte left over becomes two characters and two bytes become
three.
-/

namespace RestTemplates

namespace Base64

/-- The character of a number below sixty-four. -/
def digit (n : Nat) : Char :=
  if n < 26 then Char.ofNat (0x41 + n)
  else if n < 52 then Char.ofNat (0x61 + (n - 26))
  else if n < 62 then Char.ofNat (0x30 + (n - 52))
  else if n = 62 then '+'
  else '/'

/-- The four characters of three bytes. -/
def quantum (a b c : UInt8) : List Char :=
  let bits := (a.toNat * 256 + b.toNat) * 256 + c.toNat
  [digit (bits / 262144), digit (bits / 4096 % 64), digit (bits / 64 % 64), digit (bits % 64)]

def encodeChars : Bytes → List Char
  | a :: b :: c :: rest => quantum a b c ++ encodeChars rest
  | [a, b] => (quantum a b 0).take 3
  | [a] => (quantum a 0 0).take 2
  | [] => []

def encode (bytes : Bytes) : String := String.ofList (encodeChars bytes)

end Base64

end RestTemplates
