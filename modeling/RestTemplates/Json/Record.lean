import RestTemplates.Json.Reader

/-!
# JSON records — values of a known shape

A value of a known shape is read directly from the bytes, so that the first fault decides, be it one
of the text or one of the shape.  A value of another kind is named in the error; of a wrong number
or string the whole word is read before.

This file defines:

* readers for strings, unsigned integers, `null`, optional values, lists and named choices,
* `JsonRecord`, a list of named fields, which is read from an object or from an array of its fields
  in order.
-/

namespace RestTemplates

namespace JsonRead

variable {α σ : Type}

/-! ## Kinds -/

/-- The error for a value of another kind than the expected one. -/
def invalidAt (expected : String) (input : Bytes) : Except JsonError α := do
  match input with
  | [] => .error .incomplete
  | Ascii.n :: rest =>
    let _ ← literal (Ascii.bytes "ull") rest
    .error (.invalidType .null expected)
  | Ascii.t :: rest =>
    let _ ← literal (Ascii.bytes "rue") rest
    .error (.invalidType (.bool true) expected)
  | Ascii.f :: rest =>
    let _ ← literal (Ascii.bytes "alse") rest
    .error (.invalidType (.bool false) expected)
  | Ascii.quote :: rest =>
    let read ← stringBody rest
    .error (.invalidType (.string read.1) expected)
  | Ascii.minus :: rest =>
    let read ← number true rest
    .error (.invalidType (.number read.1) expected)
  | Ascii.openBracket :: _ => .error (.invalidType .sequence expected)
  | Ascii.openBrace :: _ => .error (.invalidType .map expected)
  | byte :: _ =>
    if Ascii.isDigit byte then
      let read ← number false input
      .error (.invalidType (.number read.1) expected)
    else .error .malformed

/-- A string; `expected` is how errors call it. -/
def stringAs (expected : String) (input : Bytes) : Except JsonError (String × Bytes) :=
  match skipBlank input with
  | [] => .error .incomplete
  | Ascii.quote :: rest => stringBody rest
  | start => invalidAt expected start

def string : Bytes → Except JsonError (String × Bytes) := stringAs "a string"

/-- The natural number that a number is. -/
def toUnsigned (n : JsonNumber) : Except JsonError Nat :=
  match n with
  | .integer n =>
    if n ≥ 0 then .ok n.toNat else .error (.invalidValue (.number (.integer n)) "u64")
  | n => .error (.invalidType (.number n) "u64")

/-- An integer from 0 to 2^64 - 1. -/
def unsigned (input : Bytes) : Except JsonError (Nat × Bytes) := do
  match skipBlank input with
  | [] => .error .incomplete
  | Ascii.minus :: rest =>
    let (n, rest) ← number true rest
    return (← toUnsigned n, rest)
  | start@(byte :: _) =>
    if Ascii.isDigit byte then
      let (n, rest) ← number false start
      return (← toUnsigned n, rest)
    else invalidAt "u64" start

/-- The value `null`. -/
def unit (input : Bytes) : Except JsonError (Unit × Bytes) :=
  match skipBlank input with
  | [] => .error .incomplete
  | Ascii.n :: rest => (literal (Ascii.bytes "ull") rest).map ((), ·)
  | start => invalidAt "unit" start

/-- The value `null`, or a value of a kind. -/
def optional (item : Bytes → Except JsonError (α × Bytes)) (input : Bytes) :
    Except JsonError (Option α × Bytes) :=
  match skipBlank input with
  | Ascii.n :: rest => (literal (Ascii.bytes "ull") rest).map (none, ·)
  | start => (item start).map fun read => (some read.1, read.2)

def list (item : Bytes → Except JsonError (α × Bytes)) (input : Bytes) :
    Except JsonError (List α × Bytes) :=
  match skipBlank input with
  | [] => .error .incomplete
  | Ascii.openBracket :: rest => items item (Ascii.openBracket :: rest) true rest
  | start => invalidAt "a sequence" start

/-- The choice of a name. -/
def choose (choices : List (String × α)) (name : String) : Except JsonError α :=
  match choices.lookup name with
  | some choice => .ok choice
  | none => .error (.unknownVariant name (choices.map (·.1)))

/-- One of some named choices: a string, or an object whose only member has `null` for its value. -/
def choice (choices : List (String × α)) (input : Bytes) : Except JsonError (α × Bytes) := do
  match skipBlank input with
  | [] => .error .incomplete
  | Ascii.quote :: rest =>
    let (name, rest) ← stringBody rest
    return (← choose choices name, rest)
  | Ascii.openBrace :: rest =>
    let (name, rest) ← stringAs "variant identifier" rest
    let found ← choose choices name
    let ((), rest) ← unit (← colon rest)
    match skipBlank rest with
    | [] => .error .incomplete
    | Ascii.closeBrace :: rest => .ok (found, rest)
    | _ => .error .malformed
  | _ => .error .malformed

end JsonRead

/-! ## Records -/

/-- A field: its name, whether it has to be given, and how it is read into the record. -/
structure JsonField (σ : Type) where
  name : String
  isRequired : Bool
  read : σ → Bytes → Except JsonError (σ × Bytes)

/-- A field whose value is read by itself and put into the record. -/
def JsonField.of {σ α : Type} (name : String) (isRequired : Bool)
    (item : Bytes → Except JsonError (α × Bytes)) (put : σ → α → σ) : JsonField σ :=
  ⟨name, isRequired, fun s input => (item input).map fun read => (put s read.1, read.2)⟩

/-- The shape of a record; members of other names are errors or passed over. -/
structure JsonRecord (σ : Type) where
  name : String
  fields : List (JsonField σ)
  deniesUnknown : Bool

namespace JsonRecord

variable {σ : Type}

open JsonRead

/-- Reads the member of a key into the record and notes the key. -/
def member (r : JsonRecord σ) (state : σ × List String) (key : String) (input : Bytes) :
    Except JsonError ((σ × List String) × Bytes) := do
  match r.fields.find? (·.name = key) with
  | some field =>
    if state.2.contains key then .error (.duplicateField key)
    else
      let (s, rest) ← field.read state.1 (← colon input)
      return ((s, key :: state.2), rest)
  | none =>
    if r.deniesUnknown then .error (.unknownField key (r.fields.map (·.name)))
    else return (state, ← skip (← colon input))

/-- The first required field that was not given. -/
def missing? (r : JsonRecord σ) (given : List String) : Option (JsonField σ) :=
  r.fields.find? fun field => field.isRequired && !given.contains field.name

def fromObject (r : JsonRecord σ) (s : σ) (input : Bytes) : Except JsonError (σ × Bytes) := do
  let (state, rest) ← members r.member (Ascii.openBrace :: input) true (s, []) input
  match r.missing? state.2 with
  | some field => .error (.missingField field.name)
  | none => return (state.1, rest)

/-- How errors speak of the length of the record. -/
def lengthText (r : JsonRecord σ) : String :=
  r.name ++ " with " ++ toString r.fields.length ++ " elements"

/-- Reads fields in order; those at the end that need not be given may be left out. -/
def elements (r : JsonRecord σ) :
    List (JsonField σ) → Nat → Bool → σ → Bytes → Except JsonError (σ × Bytes)
  | [], _, _, s, input =>
    match skipBlank input with
    | [] => .error .incomplete
    | Ascii.closeBracket :: rest => .ok (s, rest)
    | _ => .error .malformed
  | field :: more, index, isFirst, s, input => do
    let next := fun (start : Bytes) => do
      let (s, rest) ← field.read s start
      elements r more (index + 1) false s rest
    match skipBlank input with
    | [] => .error .incomplete
    | start@(Ascii.closeBracket :: _) =>
      if field.isRequired then .error (.invalidLength index r.lengthText)
      else elements r more (index + 1) isFirst s start
    | start@(byte :: rest) =>
      if isFirst then next start
      else if byte = Ascii.comma then
        match skipBlank rest with
        | [] => .error .incomplete
        | Ascii.closeBracket :: _ => .error .malformed
        | start => next start
      else .error .malformed

/-- Reads a record into one that holds the values of the fields that are not given. -/
def read (r : JsonRecord σ) (s : σ) (input : Bytes) : Except JsonError (σ × Bytes) :=
  match skipBlank input with
  | [] => .error .incomplete
  | Ascii.openBrace :: rest => r.fromObject s rest
  | Ascii.openBracket :: rest => r.elements r.fields 0 true s rest
  | start => invalidAt r.name start

end JsonRecord

end RestTemplates
