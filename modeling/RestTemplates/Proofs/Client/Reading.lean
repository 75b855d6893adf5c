import RestTemplates.Proofs.Client.StatusErrors

/-!
# Reading — what a client reads of a response

A client reads the whole body of a response with a status from 200 to 299, and the start of any
other.  Only when that has been read is anything made of the response.  How the body was cut into
chunks on its way is not seen: what is read depends on the bytes, and on the failure after them.

This file defines:

* `BodyStream.SameContent` and `Incoming.SameContent`, the same bytes in other chunks,
* `Incoming.read`, what is read of a response, and `Exchange.arrival`, a response that was read.

It proves:

* `BodyStream.readAll_eq_ok_iff`, `BodyStream.readPreview_eq_ok_iff` and their counterparts for
  failures,
* `Exchange.of_arrival_ok` and `Exchange.of_arrival_error`, what comes of an answer,
* `Exchange.of_congr`, chunks make no difference to an exchange.
-/

namespace RestTemplates

open Fallible

/-! ## Bodies -/

namespace BodyStream

variable {stream other : BodyStream} {limit : Nat} {bytes : Bytes} {e : TransportError}

/-- Whatever the chunks, all of them are read before a failure is noticed. -/
theorem readRest_eq (failure : Option TransportError) (chunks : List Bytes) :
    readRest failure chunks = (finish failure).map fun _ => chunks.flatten := by
  induction chunks with
  | nil => cases failure <;> rfl
  | cons chunk rest ih =>
      rw [readRest, ih, List.flatten_cons]
      cases failure <;> rfl

theorem readAll_eq_ok_iff :
    stream.readAll = .ok bytes ↔ stream.failure = none ∧ bytes = stream.chunks.flatten := by
  rw [readAll, readRest_eq, map_eq_ok_iff]
  cases stream.failure with
  | none => simp [finish, eq_comm]
  | some failure => simp [finish]

theorem readAll_eq_error_iff : stream.readAll = .error e ↔ stream.failure = some e := by
  rw [readAll, readRest_eq]
  cases stream.failure with
  | none => simp [finish, Except.map]
  | some failure => simp [finish, Except.map]

/-- A failure after the limit is not met. -/
theorem readPreview_eq_ok_iff :
    stream.readPreview limit = .ok bytes ↔
      (stream.failure = none ∨ limit ≤ stream.chunks.flatten.length) ∧
        bytes = stream.chunks.flatten.take limit := by
  rw [readPreview_eq, failureWithin]
  by_cases hlimit : limit ≤ stream.chunks.flatten.length
  · rw [if_pos hlimit]
    simp only [hlimit, Except.ok.injEq, or_true, true_and, eq_comm]
  · rw [if_neg hlimit]
    cases stream.failure with
    | none => simp only [Except.ok.injEq, true_or, true_and, eq_comm]
    | some failure => simp only [hlimit, reduceCtorEq, or_self, false_and]

theorem readPreview_eq_error_iff :
    stream.readPreview limit = .error e ↔
      stream.failure = some e ∧ stream.chunks.flatten.length < limit := by
  rw [readPreview_eq, failureWithin]
  by_cases hlimit : limit ≤ stream.chunks.flatten.length
  · rw [if_pos hlimit]
    simp only [Nat.not_lt_of_le hlimit, reduceCtorEq, and_false]
  · have hshort : stream.chunks.flatten.length < limit := Nat.lt_of_not_le hlimit
    rw [if_neg hlimit]
    cases stream.failure with
    | none => simp only [reduceCtorEq, false_and]
    | some failure => simp only [hshort, Except.error.injEq, Option.some.injEq, and_true]

/-- The same bytes, however they are cut, with the same end. -/
structure SameContent (stream other : BodyStream) : Prop where
  bytes : stream.chunks.flatten = other.chunks.flatten
  failure : stream.failure = other.failure

theorem SameContent.readAll_eq (h : stream.SameContent other) : stream.readAll = other.readAll := by
  rw [readAll, readAll, readRest_eq, readRest_eq, h.bytes, h.failure]

theorem SameContent.readPreview_eq (h : stream.SameContent other) (limit : Nat) :
    stream.readPreview limit = other.readPreview limit := by
  rw [readPreview, readPreview, readChunks_eq, readChunks_eq, h.bytes, h.failure]

end BodyStream

/-! ## Responses -/

namespace Incoming

/-- What a client reads of the body of a response. -/
def read (incoming : Incoming) : Except TransportError Bytes :=
  if incoming.status.isSuccess then incoming.body.readAll
  else incoming.body.readPreview BodyText.limit

/-- Two responses that differ at most in how their bodies are cut into chunks. -/
structure SameContent (incoming other : Incoming) : Prop where
  status : incoming.status = other.status
  headers : incoming.headers = other.headers
  contentLength : incoming.contentLength = other.contentLength
  body : incoming.body.SameContent other.body

theorem SameContent.read_eq {incoming other : Incoming} (h : incoming.SameContent other) :
    incoming.read = other.read := by
  rw [read, read, h.status, h.body.readAll_eq, h.body.readPreview_eq]

end Incoming

/-! ## Exchanges -/

namespace Exchange

/-- A response with what was read of its body, if there is a response and its body could be
read. -/
def arrival (answer : Except TransportError Incoming) : Except TransportError (Incoming × Bytes) :=
  answer.bind fun incoming => incoming.read.map (incoming, ·)

/-- What is made of a response that was read. -/
def verdict (request : Request) (incoming : Incoming) (bytes : Bytes) :
    Except ClientError (Response Bytes) :=
  if incoming.status.isSuccess then
    .ok
      { info := request.info
        url := request.url
        status := incoming.status
        headers := incoming.headers
        body := bytes }
  else .error (statusError incoming bytes)

/-- What is reported of a response that was read. -/
def responseDiagnostics (s : Sending) (incoming : Incoming) (bytes : Bytes) : List Diagnostic :=
  if incoming.status.isSuccess then successDiagnostics s incoming bytes
  else failureDiagnostics s incoming bytes

theorem receive_eq (s : Sending) (incoming : Incoming) :
    receive s incoming =
      incoming.read.map fun bytes =>
        (verdict s.request incoming bytes, responseDiagnostics s incoming bytes) := by
  rw [receive, Incoming.read]
  cases hstatus : incoming.status.isSuccess with
  | true => simp [verdict, responseDiagnostics, hstatus, response]
  | false => simp [verdict, responseDiagnostics, hstatus]

variable {s : Sending} {answer other : Except TransportError Incoming} {incoming : Incoming}
  {bytes : Bytes} {e : TransportError}

theorem arrival_eq_ok_iff :
    arrival answer = .ok (incoming, bytes) ↔ answer = .ok incoming ∧ incoming.read = .ok bytes := by
  rw [arrival, bind_eq_ok_iff]
  constructor
  · rintro ⟨found, hanswer, hread⟩
    obtain ⟨read, hbytes, hpair⟩ := map_eq_ok_iff.1 hread
    cases hpair
    exact ⟨hanswer, hbytes⟩
  · rintro ⟨hanswer, hread⟩
    exact ⟨incoming, hanswer, map_eq_ok_iff.2 ⟨bytes, hread, rfl⟩⟩

/-- A response that was read decides the result, and all of the exchange is reported. -/
theorem of_arrival_ok (h : arrival answer = .ok (incoming, bytes)) :
    Exchange.of s answer =
      ⟨verdict s.request incoming bytes,
        Diagnostic.shownAt s.level
          (requestDiagnostics s ++ responseDiagnostics s incoming bytes)⟩ := by
  obtain ⟨rfl, hread⟩ := arrival_eq_ok_iff.1 h
  rw [Exchange.of, Except.bind, receive_eq, hread]
  rfl

/-- Without one, nothing but the request is reported. -/
theorem of_arrival_error (h : arrival answer = .error e) :
    Exchange.of s answer =
      ⟨.error (.transport e), Diagnostic.shownAt s.level (requestDiagnostics s)⟩ := by
  cases answer with
  | error failure =>
      cases h
      rfl
  | ok incoming =>
      cases hread : incoming.read with
      | error failure =>
          rw [arrival, Except.bind, hread] at h
          cases h
          rw [Exchange.of, Except.bind, receive_eq, hread]
          rfl
      | ok bytes =>
          rw [arrival, Except.bind, hread] at h
          cases h

/-- The chunks of a body make no difference to an exchange. -/
theorem of_congr (h : Both Incoming.SameContent answer other) :
    Exchange.of s answer = Exchange.of s other := by
  cases h with
  | error e => rfl
  | @ok incoming incoming' hsame =>
      have hread := hsame.read_eq
      obtain ⟨status, headers, contentLength, body⟩ := incoming
      obtain ⟨status', headers', contentLength', body'⟩ := incoming'
      obtain ⟨rfl, rfl, rfl, -⟩ := hsame
      -- status, headers and length are all that is looked at besides what was read
      rw [Exchange.of, Exchange.of, Except.bind, Except.bind, receive_eq, receive_eq, hread]
      rfl

end Exchange

end RestTemplates
