import RestTemplates.Json.Lexer
import RestTemplates.Json.Value

/-!
# JSON reader — documents from bytes

A document is read from left to right and the first fault decides.  Arrays and objects may be nested
127 deep; values that are only passed over may be nested without limit.  Of the members of an object
with one key the last counts.

This file defines:

* `JsonRead.items` and `JsonRead.members`, what stands between brackets and between braces,
* `JsonRead.value` and `Json.parse`, documents,
* `JsonRead.skip`, which passes over a value.
-/

namespace RestTemplates

namespace JsonRead

variable {α σ : Type}

/-! ## Brackets and braces

Every item and every member takes at least one byte, so that the input, with a byte for the closing
bracket or brace, is long enough to bound their number. -/

/-- Reads items up to the closing bracket.  There are at most as many as the first list is long. -/
def items (item : Bytes → Except JsonError (α × Bytes)) :
    Bytes → Bool → Bytes → Except JsonError (List α × Bytes)
  | [], _, _ => .error .malformed
  | _ :: fuel, isFirst, input =>
    let next := fun (start : Bytes) => do
      let (head, rest) ← item start
      let (tail, rest) ← items item fuel false rest
      return (head :: tail, rest)
    match skipBlank input with
    | [] => .error .incomplete
    | Ascii.closeBracket :: rest => .ok ([], rest)
    | start@(byte :: rest) =>
      if isFirst then next start
      else if byte = Ascii.comma then
        match skipBlank rest with
        | [] => .error .incomplete
        | Ascii.closeBracket :: _ => .error .malformed
        | start => next start
      else .error .malformed

def colon (input : Bytes) : Except JsonError Bytes :=
  match skipBlank input with
  | [] => .error .incomplete
  | Ascii.colon :: rest => .ok rest
  | _ => .error .malformed

/-- Reads members up to the closing brace.  Each key is given to a step, which reads the colon and
the value.  There are at most as many members as the first list is long. -/
def members (step : σ → String → Bytes → Except JsonError (σ × Bytes)) :
    Bytes → Bool → σ → Bytes → Except JsonError (σ × Bytes)
  | [], _, _, _ => .error .malformed
  | _ :: fuel, isFirst, state, input =>
    let next := fun (body : Bytes) => do
      let (key, rest) ← stringBody body
      let (state, rest) ← step state key rest
      members step fuel false state rest
    match skipBlank input with
    | [] => .error .incomplete
    | Ascii.closeBrace :: rest => .ok (state, rest)
    | byte :: rest =>
      if isFirst then
        if byte = Ascii.quote then next rest else .error .malformed
      else if byte = Ascii.comma then
        match skipBlank rest with
        | [] => .error .incomplete
        | Ascii.quote :: body => next body
        | _ => .error .malformed
      else .error .malformed

/-! ## Documents -/

/-- Reads a document; the depth is the number of brackets and braces that may still be opened. -/
def value (depth : Nat) (input : Bytes) : Except JsonError (Json × Bytes) :=
  match skipBlank input with
  | [] => .error .incomplete
  | Ascii.n :: rest => (literal (Ascii.bytes "ull") rest).map (.null, ·)
  | Ascii.t :: rest => (literal (Ascii.bytes "rue") rest).map (.bool true, ·)
  | Ascii.f :: rest => (literal (Ascii.bytes "alse") rest).map (.bool false, ·)
  | Ascii.quote :: rest => (stringBody rest).map fun read => (.string read.1, read.2)
  | Ascii.minus :: rest => (number true rest).map fun read => (.number read.1, read.2)
  | Ascii.openBracket :: rest =>
    match depth with
    | 0 => .error .malformed
    | depth + 1 =>
      (items (value depth) (Ascii.openBracket :: rest) true rest).map fun read =>
        (.array read.1, read.2)
  | Ascii.openBrace :: rest =>
    match depth with
    | 0 => .error .malformed
    | depth + 1 =>
      let step := fun (found : Dictionary Json) (key : String) (rest : Bytes) => do
        let (json, rest) ← value depth (← colon rest)
        return (found.insert key json, rest)
      (members step (Ascii.openBrace :: rest) true .empty rest).map fun read =>
        (.object read.1.entries, read.2)
  | start@(byte :: _) =>
    if Ascii.isDigit byte then (number false start).map fun read => (.number read.1, read.2)
    else .error .malformed

/-- Nothing but blanks may follow a document. -/
def finish (read : α × Bytes) : Except JsonError α :=
  if skipBlank read.2 = [] then .ok read.1 else .error .malformed

def depthLimit : Nat := 127

/-! ## Passing over values -/

inductive Frame
  | array
  | object
  deriving DecidableEq, Repr

/-- What is expected next while values are passed over. -/
inductive Spot
  | value
  | key
  | afterValue
  deriving DecidableEq, Repr

/-- Passes over what is expected inside the open frames until the outermost value ends, in at most
as many steps as the first list is long. -/
def skipFrames : Bytes → Spot → List Frame → Bytes → Except JsonError Bytes
  | [], _, _, _ => .error .malformed
  | _ :: fuel, .value, frames, input =>
    match skipBlank input with
    | [] => .error .incomplete
    | Ascii.n :: rest => do skipFrames fuel .afterValue frames (← literal (Ascii.bytes "ull") rest)
    | Ascii.t :: rest => do skipFrames fuel .afterValue frames (← literal (Ascii.bytes "rue") rest)
    | Ascii.f :: rest => do skipFrames fuel .afterValue frames (← literal (Ascii.bytes "alse") rest)
    | Ascii.quote :: rest => do skipFrames fuel .afterValue frames (← skipString rest)
    | Ascii.minus :: rest => do skipFrames fuel .afterValue frames (← skipNumber rest)
    | Ascii.openBracket :: rest =>
      match skipBlank rest with
      | [] => .error .incomplete
      | Ascii.closeBracket :: rest => skipFrames fuel .afterValue frames rest
      | start => skipFrames fuel .value (.array :: frames) start
    | Ascii.openBrace :: rest =>
      match skipBlank rest with
      | [] => .error .incomplete
      | Ascii.closeBrace :: rest => skipFrames fuel .afterValue frames rest
      | start => skipFrames fuel .key (.object :: frames) start
    | start@(byte :: _) =>
      if Ascii.isDigit byte then do skipFrames fuel .afterValue frames (← skipNumber start)
      else .error .malformed
  | _ :: fuel, .key, frames, input =>
    match skipBlank input with
    | [] => .error .incomplete
    | Ascii.quote :: rest => do skipFrames fuel .value frames (← colon (← skipString rest))
    | _ => .error .malformed
  | _ :: _, .afterValue, [], input => .ok input
  | _ :: fuel, .afterValue, frame :: outer, input =>
    match skipBlank input, frame with
    | [], _ => .error .incomplete
    | Ascii.comma :: rest, .array => skipFrames fuel .value (frame :: outer) rest
    | Ascii.comma :: rest, .object => skipFrames fuel .key (frame :: outer) rest
    | Ascii.closeBracket :: rest, .array => skipFrames fuel .afterValue outer rest
    | Ascii.closeBrace :: rest, .object => skipFrames fuel .afterValue outer rest
    | _, _ => .error .malformed

/-- Passes over a value.  Every step but the last takes at least one byte. -/
def skip (input : Bytes) : Except JsonError Bytes :=
  skipFrames (0 :: input) .value [] input

end JsonRead

/-- The document that a byte string is the text of. -/
def Json.parse (input : Bytes) : Except JsonError Json := do
  JsonRead.finish (← JsonRead.value JsonRead.depthLimit input)

end RestTemplates
