/-!
# Ipv4 — addresses of four bytes in host names

A host name whose last label is a number has to be an address.  Its parts are decimal, octal after a
leading `0` or hexadecimal after `0x`, and the last part fills all the bytes that are left.
-/

namespace RestTemplates

namespace Ipv4

/-! ## Numbers -/

def digitValue? (radix : Nat) (c : Char) : Option Nat :=
  let value :=
    if '0' ≤ c ∧ c ≤ '9' then some (c.toNat - 0x30)
    else if 'a' ≤ c ∧ c ≤ 'f' then some (c.toNat - 0x57)
    else if 'A' ≤ c ∧ c ≤ 'F' then some (c.toNat - 0x37)
    else none
  value.filter (· < radix)

/-- No part of an address is as great as this; numbers from here on are not told apart. -/
def limit : Nat := 4294967296

def number? (radix : Nat) (digits : List Char) : Option Nat :=
  digits.foldlM (fun n c => (digitValue? radix c).map fun d => min (n * radix + d) limit) 0

/-- The number of a part; a mark without digits is zero. -/
def part? : List Char → Option Nat
  | [] => none
  | ['0'] => some 0
  | '0' :: 'x' :: digits => number? 16 digits
  | '0' :: 'X' :: digits => number? 16 digits
  | '0' :: digits => number? 8 digits
  | digits => number? 10 digits

def isDecimal (label : List Char) : Bool := label ≠ [] && label.all Char.isDigit

/-! ## Addresses -/

/-- The labels of a name; one empty label at the end does not count. -/
def labels (name : List Char) : List (List Char) :=
  let all := name.splitOn '.'
  if all.getLast? = some [] then all.dropLast else all

/-- Is the last label a number? -/
def endsInNumber (name : List Char) : Bool :=
  match (labels name).getLast? with
  | some last => isDecimal last || (part? last).isSome
  | none => false

/-- The bytes before the last part, each below 256, followed by the last part. -/
def assemble (numbers : List Nat) : Option Nat :=
  match numbers.getLast? with
  | none => none
  | some last =>
    let leading := numbers.dropLast
    let size := Nat.pow 256 (4 - leading.length)
    if leading.length ≤ 3 ∧ leading.all (· < 256) ∧ last < size then
      some (leading.foldl (· * 256 + ·) 0 * size + last)
    else none

/-- The address of a name that ends in a number. -/
def parse? (name : List Char) : Option Nat := ((labels name).mapM part?).bind assemble

def text (address : Nat) : String :=
  ".".intercalate ([16777216, 65536, 256, 1].map fun unit => toString (address / unit % 256))

end Ipv4

end RestTemplates
