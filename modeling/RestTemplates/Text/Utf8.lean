/-!
# Utf8 — bytes of text and text of bytes

A byte string is cut into pieces by one machine that reads it byte by byte: a piece is a scalar
value, a maximal run of bytes that begins a scalar value but cannot go on, or such a run that the
end of the input cuts off.  Strict decoding accepts the scalar values and reports the first other
piece; lossy decoding shows every other piece as one replacement character.

This file defines:

* `Bytes` and `Utf8.encode`,
* the machine `Utf8.Scan` and `Utf8.pieces`,
* `Utf8.decode` with `Utf8.Error`, and `Utf8.decodeLossy`.
-/

namespace RestTemplates

/-- A byte string. -/
abbrev Bytes := List UInt8

namespace Utf8

/-- The bytes of a text. -/
def encode (text : String) : Bytes := text.toList.flatMap String.utf8EncodeChar

/-! ## Pieces -/

inductive Piece
  | scalar (c : Char)
  | invalid (width : Nat)
  | truncated (width : Nat)
  deriving DecidableEq, Repr

/-- The number of bytes that a piece covers. -/
def Piece.width : Piece → Nat
  | .scalar c => c.utf8Size
  | .invalid width => width
  | .truncated width => width

def Piece.isScalar : Piece → Bool
  | .scalar _ => true
  | _ => false

/-- A begun multi-byte sequence: its bits so far, the number of bytes read, and the closed ranges in
which the bytes still to come must lie. -/
structure Pending where
  bits : Nat
  used : Nat
  expected : List (UInt8 × UInt8)
  deriving DecidableEq, Repr

/-- What a byte means at the start of a sequence. -/
inductive Lead
  | scalar (c : Char)
  | pending (p : Pending)
  | invalid
  deriving DecidableEq, Repr

/-- The range of an unrestricted continuation byte. -/
def continuation : UInt8 × UInt8 := (0x80, 0xBF)

/-- Overlong forms, surrogates and numbers above U+10FFFF are excluded by narrowing the range of the
second byte. -/
def Lead.of (b : UInt8) : Lead :=
  if b < 0x80 then .scalar (Char.ofNat b.toNat)
  else if b < 0xC2 then .invalid
  else if b < 0xE0 then .pending ⟨b.toNat - 0xC0, 1, [continuation]⟩
  else if b < 0xF0 then
    let second : UInt8 × UInt8 :=
      if b = 0xE0 then (0xA0, 0xBF) else if b = 0xED then (0x80, 0x9F) else continuation
    .pending ⟨b.toNat - 0xE0, 1, [second, continuation]⟩
  else if b < 0xF5 then
    let second : UInt8 × UInt8 :=
      if b = 0xF0 then (0x90, 0xBF) else if b = 0xF4 then (0x80, 0x8F) else continuation
    .pending ⟨b.toNat - 0xF0, 1, [second, continuation, continuation]⟩
  else .invalid

/-- Reads one more byte of a begun sequence; `none` when the byte does not fit. -/
def Pending.next (p : Pending) (b : UInt8) : Option (Char ⊕ Pending) :=
  match p.expected with
  | [] => none
  | range :: more =>
    if range.1 ≤ b ∧ b ≤ range.2 then
      let bits := p.bits * 64 + b.toNat % 64
      some (if more.isEmpty then .inl (Char.ofNat bits) else .inr ⟨bits, p.used + 1, more⟩)
    else none

/-- The machine between two bytes: the finished pieces, last first, and a begun sequence. -/
structure Scan where
  pieces : List Piece
  pending : Option Pending
  deriving DecidableEq, Repr

namespace Scan

def start : Scan := ⟨[], none⟩

/-- Reads a byte where a new sequence starts. -/
def lead (pieces : List Piece) (b : UInt8) : Scan :=
  match Lead.of b with
  | .scalar c => ⟨.scalar c :: pieces, none⟩
  | .pending p => ⟨pieces, some p⟩
  | .invalid => ⟨.invalid 1 :: pieces, none⟩

/-- A byte that does not continue the begun sequence ends it and starts a new one. -/
def push (s : Scan) (b : UInt8) : Scan :=
  match s.pending with
  | none => lead s.pieces b
  | some p =>
    match p.next b with
    | some (.inl c) => ⟨.scalar c :: s.pieces, none⟩
    | some (.inr p) => ⟨s.pieces, some p⟩
    | none => lead (.invalid p.used :: s.pieces) b

def finish (s : Scan) : List Piece :=
  match s.pending with
  | none => s.pieces.reverse
  | some p => (.truncated p.used :: s.pieces).reverse

end Scan

def pieces (bytes : Bytes) : List Piece := (bytes.foldl Scan.push .start).finish

/-! ## Decoding -/

/-- Where strict decoding stops, and how many bytes form the offending piece; no number means that
the input ends inside a sequence. -/
structure Error where
  validUpTo : Nat
  width : Option Nat
  deriving DecidableEq, Repr

def Error.message (e : Error) : String :=
  match e.width with
  | some width => s!"invalid utf-8 sequence of {width} bytes from index {e.validUpTo}"
  | none => s!"incomplete utf-8 byte sequence from index {e.validUpTo}"

def Piece.char? : Piece → Option Char
  | .scalar c => some c
  | _ => none

def Piece.charLossy : Piece → Char
  | .scalar c => c
  | _ => '\uFFFD'

def Piece.errorAt (offset : Nat) : Piece → Error
  | .invalid width => ⟨offset, some width⟩
  | _ => ⟨offset, none⟩

/-- The number of bytes of some pieces. -/
def width : List Piece → Nat
  | [] => 0
  | piece :: rest => piece.width + width rest

/-- The text of a byte string, or its first fault. -/
def decode (bytes : Bytes) : Except Error String :=
  let all := pieces bytes
  let good := all.takeWhile Piece.isScalar
  match all.drop good.length with
  | [] => .ok (String.ofList (good.filterMap Piece.char?))
  | bad :: _ => .error (bad.errorAt (width good))

def decode? (bytes : Bytes) : Option String := (decode bytes).toOption

def isValid (bytes : Bytes) : Bool := (pieces bytes).all Piece.isScalar

/-- The text of a byte string, with a replacement character for each piece that is no scalar
value. -/
def decodeLossy (bytes : Bytes) : String := String.ofList ((pieces bytes).map Piece.charLossy)

end Utf8

end RestTemplates
