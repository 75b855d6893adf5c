import RestTemplates.Transport.Basic

/-!
# Mock — a transport that records its requests

A mock answers with scripted replies in order and records every request that reaches it, also those
for which no reply is left.  The body of a reply arrives in chunks of a fixed size.

This file defines:

* `MockReply`, with a content type where it has a body,
* `Mock` as a transport,
* what a test demands of a mock, with `MockComplaint` for what it did not find,
* `MockHandle`, a mock that a test may finish with.
-/

namespace RestTemplates

/-! ## Replies -/

structure MockReply where
  status : Status
  headers : Headers
  body : Bytes
  deriving DecidableEq

namespace MockReply

def ofStatus (status : Status) : MockReply := ⟨status, .empty, []⟩

def withBody (r : MockReply) (body : Bytes) (contentType : String) : MockReply :=
  { r with
    body
    headers := Headers.set r.headers HeaderName.contentType (Utf8.encode contentType) }

def withHeader (r : MockReply) (name : HeaderName) (value : HeaderValue) : MockReply :=
  { r with headers := Headers.set r.headers name value }

def okJson (body : Bytes) : MockReply := (ofStatus ⟨200⟩).withBody body "application/json"

def okText (body : Bytes) : MockReply := (ofStatus ⟨200⟩).withBody body "text/plain; charset=utf-8"

end MockReply

/-! ## The transport -/

/-- Cuts bytes into chunks of one more than the given size, the last of which may be shorter. -/
def chunksOf (size : Nat) (bytes : Bytes) : List Bytes :=
  if bytes = [] then [] else bytes.take (size + 1) :: chunksOf size (bytes.drop (size + 1))
termination_by bytes.length
decreasing_by
  have := List.length_pos_iff.2 ‹bytes ≠ []›
  simp only [List.length_drop]
  omega

/-- The requests that were recorded, the replies that are left, and the size of chunks. -/
structure Mock where
  recorded : List Request
  replies : List MockReply
  chunkSize : Nat

namespace Mock

def defaultChunkSize : Nat := 4096

def ofReplies (replies : List MockReply) (chunkSize : Nat) : Mock := ⟨[], replies, chunkSize⟩

/-- The body of a reply in chunks of at least one byte. -/
def stream (m : Mock) (body : Bytes) : BodyStream := ⟨chunksOf (m.chunkSize - 1) body, none⟩

def respond (m : Mock) (reply : MockReply) : Incoming :=
  { status := reply.status
    headers := reply.headers
    contentLength := some reply.body.length
    body := m.stream reply.body }

def noReply (request : Request) : TransportError :=
  ⟨"MockTransport: no scripted reply left for " ++ request.info.method.token ++ " " ++
    request.url.text⟩

instance : Transport Mock where
  send m request :=
    let recorded := { m with recorded := m.recorded ++ [request] }
    match m.replies with
    | [] => (.error (noReply request), recorded)
    | reply :: rest => (.ok (m.respond reply), { recorded with replies := rest })

end Mock

/-! ## Demands -/

/-- What a test did not find. -/
inductive MockComplaint
  | recordedCount (expected found : Nat)
  | repliesLeft (count : Nat)
  /-- Replies that are left when the mock is given up unfinished. -/
  | repliesLeftAtDrop (count : Nat)
  deriving DecidableEq, Repr

def MockComplaint.message : MockComplaint → String
  | .recordedCount expected found =>
    "recorded request count mismatch\n  expected: " ++ toString expected ++ "\n  got: " ++
      toString found
  | .repliesLeft count => "mock replies not fully consumed: remaining=" ++ toString count
  | .repliesLeftAtDrop count =>
    "mock replies not fully consumed (drop): remaining=" ++ toString count

namespace Mock

def remaining (m : Mock) : Nat := m.replies.length

def demandRecorded (m : Mock) (count : Nat) : Except MockComplaint Unit :=
  if m.recorded.length = count then .ok () else .error (.recordedCount count m.recorded.length)

/-- The only request that was recorded. -/
def single (m : Mock) : Except MockComplaint Request :=
  match m.recorded with
  | [request] => .ok request
  | recorded => .error (.recordedCount 1 recorded.length)

def demandNoReplies (m : Mock) : Except MockComplaint Unit :=
  if m.remaining = 0 then .ok () else .error (.repliesLeft m.remaining)

/-- Gives the mock up without having finished it. -/
def drop (m : Mock) : Except MockComplaint Unit :=
  if m.remaining = 0 then .ok () else .error (.repliesLeftAtDrop m.remaining)

end Mock

/-! ## Handles -/

/-- A mock in the hands of a test, which may have finished with it. -/
structure MockHandle where
  mock : Mock
  isFinished : Bool

namespace MockHandle

/-- Finishes with a mock, which has to have used up its replies. -/
def finish (h : MockHandle) : Except MockComplaint MockHandle :=
  h.mock.demandNoReplies.map fun _ => { h with isFinished := true }

/-- Gives a handle up.  Nothing is demanded any more of a handle that is finished, or by a test that
is failing already. -/
def drop (h : MockHandle) (isFailing : Bool) : Except MockComplaint Unit :=
  if h.isFinished || isFailing then .ok () else h.mock.drop

end MockHandle

end RestTemplates
