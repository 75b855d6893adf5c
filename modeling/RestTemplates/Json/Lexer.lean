import RestTemplates.Json.Error
import RestTemplates.Percent
import RestTemplates.Text.Ascii

/-!
# JSON words — literals, strings and numbers

Each reader takes the bytes from a place on and gives what it read together with the bytes after it.
A text that ends inside a word is incomplete, also when fewer than four bytes are left for the
digits of an escape; every other fault makes it malformed.

This file defines:

* `JsonRead.skipBlank` and `JsonRead.literal`,
* `JsonRead.stringBody`, a string after its opening quote, and `JsonRead.skipString`, which only
  finds its end,
* `JsonRead.number` and `JsonRead.skipNumber`, a number after its sign.
-/

namespace RestTemplates

namespace JsonRead

def isBlankByte (byte : UInt8) : Bool :=
  byte = 0x20 || byte = 0x0A || byte = 0x09 || byte = 0x0D

def skipBlank (input : Bytes) : Bytes := input.dropWhile isBlankByte

/-- Reads exactly the given bytes. -/
def literal : Bytes → Bytes → Except JsonError Bytes
  | [], input => .ok input
  | _ :: _, [] => .error .incomplete
  | expected :: more, byte :: rest =>
    if byte = expected then literal more rest else .error .malformed

/-! ## Strings -/

/-- Four hexadecimal digits. -/
def hexNumber : Bytes → Except JsonError (Nat × Bytes)
  | a :: b :: c :: d :: rest =>
    match Percent.hexValue? a, Percent.hexValue? b, Percent.hexValue? c, Percent.hexValue? d with
    | some a, some b, some c, some d =>
      .ok (((a.toNat * 16 + b.toNat) * 16 + c.toNat) * 16 + d.toNat, rest)
    | _, _, _, _ => .error .malformed
  | _ => .error .incomplete

theorem length_of_hexNumber {input rest : Bytes} {n : Nat} (h : hexNumber input = .ok (n, rest)) :
    rest.length < input.length := by
  unfold hexNumber at h
  split at h
  · split at h
    · cases h
      simp only [List.length_cons]
      omega
    · cases h
  · cases h

/-- The second half of a surrogate pair, whose escape has to follow at once. -/
def lowSurrogate : Bytes → Except JsonError (Nat × Bytes)
  | [] => .error .incomplete
  | [Ascii.backslash] => .error .incomplete
  | Ascii.backslash :: Ascii.u :: rest => do
    let (low, rest) ← hexNumber rest
    if 0xDC00 ≤ low ∧ low ≤ 0xDFFF then .ok (low, rest) else .error .malformed
  | _ => .error .malformed

theorem length_of_lowSurrogate {input rest : Bytes} {n : Nat}
    (h : lowSurrogate input = .ok (n, rest)) : rest.length < input.length := by
  unfold lowSurrogate at h
  split at h
  · cases h
  · cases h
  · next tail =>
    cases hx : hexNumber tail with
    | error e => simp [hx, bind, Except.bind] at h
    | ok read =>
      have hlt := length_of_hexNumber hx
      simp only [hx, bind, Except.bind] at h
      split at h
      · cases h
        simp only [List.length_cons]
        omega
      · cases h
  · cases h

/-- The character of the digits after `\u`; two surrogates in order form one. -/
def unicodeEscape (input : Bytes) : Except JsonError (Char × Bytes) := do
  let (high, rest) ← hexNumber input
  if 0xDC00 ≤ high ∧ high ≤ 0xDFFF then .error .malformed
  else if 0xD800 ≤ high ∧ high ≤ 0xDBFF then
    let (low, rest) ← lowSurrogate rest
    .ok (Char.ofNat (0x10000 + (high - 0xD800) * 0x400 + (low - 0xDC00)), rest)
  else .ok (Char.ofNat high, rest)

theorem length_of_unicodeEscape {input rest : Bytes} {c : Char}
    (h : unicodeEscape input = .ok (c, rest)) : rest.length < input.length := by
  unfold unicodeEscape at h
  cases hx : hexNumber input with
  | error e => simp [hx, bind, Except.bind] at h
  | ok read =>
    obtain ⟨high, tail⟩ := read
    have hlt := length_of_hexNumber hx
    simp only [hx, bind, Except.bind] at h
    split at h
    · cases h
    · split at h
      · cases hy : lowSurrogate tail with
        | error e => simp [hy] at h
        | ok pair =>
          have hlt' := length_of_lowSurrogate hy
          simp only [hy, Except.ok.injEq, Prod.mk.injEq] at h
          exact h.2 ▸ Nat.lt_trans hlt' hlt
      · cases h
        exact hlt

/-- The byte that a letter after a backslash stands for. -/
def shortEscape? : UInt8 → Option UInt8
  | Ascii.quote => some 0x22
  | Ascii.backslash => some 0x5C
  | Ascii.slash => some 0x2F
  | Ascii.b => some 0x08
  | Ascii.f => some 0x0C
  | Ascii.n => some 0x0A
  | Ascii.r => some 0x0D
  | Ascii.t => some 0x09
  | _ => none

/-- The bytes that an escape stands for, read after its backslash. -/
def escapeBytes : Bytes → Except JsonError (Bytes × Bytes)
  | [] => .error .incomplete
  | Ascii.u :: rest => (unicodeEscape rest).map fun read => (String.utf8EncodeChar read.1, read.2)
  | letter :: rest =>
    match shortEscape? letter with
    | some byte => .ok ([byte], rest)
    | none => .error .malformed

theorem length_of_escapeBytes {input rest bytes : Bytes}
    (h : escapeBytes input = .ok (bytes, rest)) : rest.length < input.length := by
  unfold escapeBytes at h
  split at h
  · cases h
  · next tail =>
    cases hx : unicodeEscape tail with
    | error e => simp [hx, Except.map] at h
    | ok read =>
      have hlt := length_of_unicodeEscape hx
      simp only [hx, Except.map] at h
      cases h
      exact Nat.lt_succ_of_lt hlt
  · split at h
    · cases h
      simp
    · cases h

/-- The bytes up to the closing quote, after those already read, which are given last first. -/
def stringBytes (read : Bytes) (input : Bytes) : Except JsonError (Bytes × Bytes) :=
  match input with
  | [] => .error .incomplete
  | byte :: rest =>
    if byte = Ascii.quote then .ok (read.reverse, rest)
    else if byte = Ascii.backslash then
      match _h : escapeBytes rest with
      | .ok (bytes, after) => stringBytes (bytes.reverse ++ read) after
      | .error e => .error e
    else if byte < 0x20 then .error .malformed
    else stringBytes (byte :: read) rest
termination_by input.length
decreasing_by
  · have hlt := length_of_escapeBytes _h
    simp only [List.length_cons]
    omega
  · simp

/-- The text of a string, read after its opening quote. -/
def stringBody (input : Bytes) : Except JsonError (String × Bytes) := do
  let (bytes, rest) ← stringBytes [] input
  match Utf8.decode? bytes with
  | some text => .ok (text, rest)
  | none => .error .malformed

/-- Passes over a string after its opening quote; surrogates and bytes are not looked at. -/
def skipString (input : Bytes) : Except JsonError Bytes :=
  match input with
  | [] => .error .incomplete
  | byte :: rest =>
    if byte = Ascii.quote then .ok rest
    else if byte = Ascii.backslash then
      match rest with
      | [] => .error .incomplete
      | letter :: rest =>
        if letter = Ascii.u then
          match _h : hexNumber rest with
          | .ok (_, after) => skipString after
          | .error e => .error e
        else if (shortEscape? letter).isSome then skipString rest
        else .error .malformed
    else if byte < 0x20 then .error .malformed
    else skipString rest
termination_by input.length
decreasing_by
  · have hlt := length_of_hexNumber _h
    simp only [List.length_cons]
    omega
  · simp only [List.length_cons]
    omega
  · simp

/-! ## Numbers -/

def digitsOf (input : Bytes) : Bytes := input.takeWhile Ascii.isDigit

def afterDigits (input : Bytes) : Bytes := input.dropWhile Ascii.isDigit

/-- Exponents above this one are not told apart. -/
def exponentLimit : Nat := 2147483647

/-- The value of digits, or one more than the limit if it is above. -/
def exponentValue (digits : Bytes) : Nat :=
  digits.foldl (fun n digit => min (n * 10 + (digit.toNat - 0x30)) (exponentLimit + 1)) 0

/-- Appends digits to a number while it stays below 2^64; the digits that did not fit are left. -/
def absorb (n : Nat) : Bytes → Nat × Bytes
  | [] => (n, [])
  | digit :: rest =>
    let next := n * 10 + (digit.toNat - 0x30)
    if next < 18446744073709551616 then absorb next rest else (n, digit :: rest)

/-- The number of double precision `±m * 10 ^ exponent`; one that is too great is malformed. -/
def scaled (negative : Bool) (significand : Nat) (exponent : Int) : Except JsonError JsonNumber :=
  match (Binary64.ofNat? significand).bind (·.scale10? exponent) with
  | some magnitude => .ok (.float negative magnitude)
  | none => .error .malformed

/-- The integer, if it fits in 64 bits with its sign; a negative zero is none. -/
def integerOrFloat (negative : Bool) (n : Nat) : Except JsonError JsonNumber :=
  if negative then
    if n = 0 ∨ n > 9223372036854775808 then scaled true n 0 else .ok (.integer (-(n : Int)))
  else .ok (.integer n)

/-- Reads the exponent after its letter, for digits that already have one. -/
def exponentPart (negative : Bool) (significand : Nat) (exponent : Int) (input : Bytes) :
    Except JsonError (JsonNumber × Bytes) :=
  let (down, rest) := match input with
    | Ascii.plus :: rest => (false, rest)
    | Ascii.minus :: rest => (true, rest)
    | rest => (false, rest)
  match rest with
  | [] => .error .incomplete
  | first :: _ =>
    if !Ascii.isDigit first then .error .malformed
    else
      let n := exponentValue (digitsOf rest)
      if n > exponentLimit then
        if significand ≠ 0 ∧ !down then .error .malformed
        else .ok (.float negative .zero, afterDigits rest)
      else
        let moved : Int := if down then exponent - n else exponent + n
        (scaled negative significand moved).map (·, afterDigits rest)

/-- Reads what may follow the digits of a number: an exponent or nothing. -/
def afterFraction (negative : Bool) (significand : Nat) (exponent : Int) (input : Bytes) :
    Except JsonError (JsonNumber × Bytes) :=
  match input with
  | Ascii.e :: rest => exponentPart negative significand exponent rest
  | Ascii.upperE :: rest => exponentPart negative significand exponent rest
  | rest => (scaled negative significand exponent).map (·, rest)

/-- Reads the digits after a point. -/
def fractionPart (negative : Bool) (significand : Nat) (exponent : Int) (input : Bytes) :
    Except JsonError (JsonNumber × Bytes) :=
  let digits := digitsOf input
  match digits, input with
  | [], [] => .error .incomplete
  | [], _ => .error .malformed
  | _, _ =>
    let (n, left) := absorb significand digits
    afterFraction negative n (exponent - (digits.length - left.length : Nat)) (afterDigits input)

/-- Reads a number after its sign.  Digits beyond the first twenty or so only count as places. -/
def number (negative : Bool) (input : Bytes) : Except JsonError (JsonNumber × Bytes) :=
  match input with
  | [] => .error .incomplete
  | first :: _ =>
    let digits := digitsOf input
    if digits = [] then .error .malformed
    else if first = Ascii.zero ∧ digits.length > 1 then .error .malformed
    else
      let (n, left) := absorb 0 digits
      let places : Int := left.length
      match afterDigits input with
      | Ascii.dot :: rest => fractionPart negative n places rest
      | Ascii.e :: rest => exponentPart negative n places rest
      | Ascii.upperE :: rest => exponentPart negative n places rest
      | rest =>
        if left = [] then (integerOrFloat negative n).map (·, rest)
        else (scaled negative n places).map (·, rest)

/-- Passes over the exponent of a number after its letter. -/
def skipExponent (input : Bytes) : Except JsonError Bytes :=
  let rest := match input with
    | Ascii.plus :: rest => rest
    | Ascii.minus :: rest => rest
    | rest => rest
  if digitsOf rest = [] then .error .malformed else .ok (afterDigits rest)

/-- Passes over what may follow the digits of a number. -/
def skipAfterFraction (input : Bytes) : Except JsonError Bytes :=
  match input with
  | Ascii.e :: rest => skipExponent rest
  | Ascii.upperE :: rest => skipExponent rest
  | rest => .ok rest

/-- Passes over a number after its sign; neither its size nor an early end is looked at. -/
def skipNumber (input : Bytes) : Except JsonError Bytes :=
  let digits := digitsOf input
  if digits = [] ∨ (digits.head? = some Ascii.zero ∧ digits.length > 1) then .error .malformed
  else
    match afterDigits input with
    | Ascii.dot :: rest =>
      if digitsOf rest = [] then .error .malformed else skipAfterFraction (afterDigits rest)
    | rest => skipAfterFraction rest

end JsonRead

end RestTemplates
