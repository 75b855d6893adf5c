import RestTemplates.Error
import RestTemplates.Request

/-!
# Transport — what carries requests

A transport answers a request with a failure or with a response, whose body arrives in chunks and
may break off.

This file defines:

* `BodyStream`, with `readAll` and `readPreview`,
* `Incoming`, a response as it arrives, and the class `Transport`,
* `Script`, the transport that gives prepared answers in order.
-/

namespace RestTemplates

/-- The chunks of a body, and the failure after them if it breaks off. -/
structure BodyStream where
  chunks : List Bytes
  failure : Option TransportError
  deriving DecidableEq, Repr

namespace BodyStream

/-- What is left when no chunk follows. -/
def finish (failure : Option TransportError) : Except TransportError Bytes :=
  match failure with
  | some e => .error e
  | none => .ok []

/-- Reads chunks until none follows. -/
def readRest (failure : Option TransportError) : List Bytes → Except TransportError Bytes
  | [] => finish failure
  | chunk :: rest => (readRest failure rest).map (chunk ++ ·)

/-- All of a body. -/
def readAll (stream : BodyStream) : Except TransportError Bytes :=
  readRest stream.failure stream.chunks

/-- Reads chunks until there is no room left; a failure after that is not noticed. -/
def readChunks (failure : Option TransportError) : Nat → List Bytes → Except TransportError Bytes
  | 0, _ => .ok []
  | _ + 1, [] => finish failure
  | room + 1, chunk :: rest =>
    (readChunks failure (room + 1 - chunk.length) rest).map (chunk.take (room + 1) ++ ·)

/-- The first bytes of a body. -/
def readPreview (stream : BodyStream) (limit : Nat) : Except TransportError Bytes :=
  readChunks stream.failure limit stream.chunks

end BodyStream

/-- A response as it arrives. -/
structure Incoming where
  status : Status
  headers : Headers
  contentLength : Option Nat
  body : BodyStream
  deriving DecidableEq

/-- The states of a transport, which answers a request and moves to its next state. -/
class Transport (σ : Type) where
  send : σ → Request → Except TransportError Incoming × σ

/-! ## Prepared answers -/

/-- The answers that are left; without one the transport is offline. -/
structure Script where
  answers : List (Except TransportError Incoming)

instance : Transport Script where
  send script _ :=
    match script.answers with
    | [] => (.error ⟨"offline"⟩, script)
    | answer :: rest => (answer, ⟨rest⟩)

end RestTemplates
