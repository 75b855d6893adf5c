import RestTemplates.Proofs.Client.TargetPath

/-!
# Status errors — what is reported of a response that is no success

A response with a status outside 200 to 299 is an error that carries the status, the headers and the
start of the body.  The start of the body is read before the error is put together.  If the body
breaks off before that start has arrived, the failure of the transport is reported in place of the
status, whichever way the request was sent, and nothing of the response is left.

This file defines:

* `BodyStream.failureWithin`, the failure that a reader of the first bytes meets,
* `Exchange.rejection`, the error that such a response leads to.

It proves:

* `BodyStream.readPreview_eq`, what of a body is read,
* `Client.dispatch_rejected`, the error of a request that was answered so,
* `Client.status_reported_iff`, when the status is reported, for all ways to send a request.
-/

namespace RestTemplates

/-! ## Bodies -/

namespace BodyStream

/-- The failure that a reader of so many bytes meets: the one after the chunks, if these are too
few. -/
def failureWithin (stream : BodyStream) (limit : Nat) : Option TransportError :=
  if limit ≤ stream.chunks.flatten.length then none else stream.failure

/-- How the chunks are cut does not matter, only what they hold together. -/
theorem readChunks_eq (failure : Option TransportError) (room : Nat) (chunks : List Bytes) :
    readChunks failure room chunks =
      if room ≤ chunks.flatten.length then .ok (chunks.flatten.take room)
      else (finish failure).map fun _ => chunks.flatten := by
  -- the chunks after the first are read with the room that it leaves
  induction chunks generalizing room with
  | nil =>
      cases room with
      | zero => rfl
      | succ room => cases failure <;> rfl
  | cons chunk rest ih =>
      cases room with
      | zero => rfl
      | succ room =>
          rw [readChunks, ih, List.flatten_cons, List.length_append, List.take_append]
          by_cases hroom : room + 1 ≤ chunk.length + rest.flatten.length
          · -- there is enough, in this chunk alone or together with the rest
            have hrest : room + 1 - chunk.length ≤ rest.flatten.length := by
              omega
            rw [if_pos hrest, if_pos hroom]
            rfl
          · -- all of the chunk is read, and the rest has to do without enough room as well
            have hrest : ¬ room + 1 - chunk.length ≤ rest.flatten.length := by
              omega
            have hchunk : chunk.take (room + 1) = chunk :=
              List.take_of_length_le (by omega)
            rw [if_neg hrest, if_neg hroom, hchunk]
            cases finish failure <;> rfl

theorem readPreview_eq (stream : BodyStream) (limit : Nat) :
    stream.readPreview limit =
      match stream.failureWithin limit with
      | none => .ok (stream.chunks.flatten.take limit)
      | some failure => .error failure := by
  rw [readPreview, readChunks_eq, failureWithin]
  by_cases hlimit : limit ≤ stream.chunks.flatten.length
  · rw [if_pos hlimit, if_pos hlimit]
  · have hall : stream.chunks.flatten.take limit = stream.chunks.flatten :=
      List.take_of_length_le (by omega)
    rw [if_neg hlimit, if_neg hlimit, hall]
    cases stream.failure <;> rfl

end BodyStream

/-! ## Errors -/

namespace Exchange

/-- The error that a response outside 200 to 299 leads to. -/
def rejection (incoming : Incoming) : ClientError :=
  match incoming.body.failureWithin BodyText.limit with
  | none => statusError incoming (incoming.body.chunks.flatten.take BodyText.limit)
  | some failure => .transport failure

theorem of_rejected {s : Sending} {incoming : Incoming} (h : incoming.status.isSuccess = false) :
    (Exchange.of s (.ok incoming)).result = .error (rejection incoming) := by
  have hreceive : receive s incoming =
      (incoming.body.readPreview BodyText.limit).map fun preview =>
        (.error (statusError incoming preview), failureDiagnostics s incoming preview) := by
    rw [receive, h]
    rfl
  -- the failure of the body, if it is met, takes the place of the error and its diagnostics
  rw [BodyStream.readPreview_eq] at hreceive
  rw [Exchange.of, Except.bind, hreceive, rejection]
  cases incoming.body.failureWithin BodyText.limit <;> rfl

/-- The error names no operation yet. -/
theorem tag_rejection (operation : String) (incoming : Incoming) :
    (rejection incoming).tag operation = .inOperation operation (rejection incoming) := by
  rw [rejection]
  cases incoming.body.failureWithin BodyText.limit <;> rfl

end Exchange

/-- What an error says of a response outside 200 to 299. -/
structure ReportedBy (incoming : Incoming) (e : ClientError) : Prop where
  status_iff :
    e.status? = some incoming.status ↔ incoming.body.failureWithin BodyText.limit = none
  /-- The error of a response whose body did not break off too early. -/
  read :
    incoming.body.failureWithin BodyText.limit = none →
      e.root = .httpStatus incoming.status incoming.headers
        (BodyText.describe incoming.headers (incoming.body.chunks.flatten.take BodyText.limit)
          incoming.contentLength)
  /-- The error of a response whose body did. -/
  broken :
    ∀ failure, incoming.body.failureWithin BodyText.limit = some failure →
      e.root = .transport failure ∧ e.status? = none

theorem reportedBy_rejection (operation : String) (incoming : Incoming) :
    ReportedBy incoming (.inOperation operation (Exchange.rejection incoming)) := by
  cases hbody : incoming.body.failureWithin BodyText.limit with
  | none =>
      have hrejection : Exchange.rejection incoming =
          Exchange.statusError incoming (incoming.body.chunks.flatten.take BodyText.limit) := by
        rw [Exchange.rejection, hbody]
      rw [hrejection]
      refine ⟨⟨fun _ => hbody, fun _ => rfl⟩, fun _ => rfl, ?_⟩
      intro failure hfailure
      cases hbody.symm.trans hfailure
  | some found =>
      have hrejection : Exchange.rejection incoming = .transport found := by
        rw [Exchange.rejection, hbody]
      rw [hrejection]
      refine ⟨⟨nofun, ?_⟩, ?_, ?_⟩
      · intro hnone
        cases hbody.symm.trans hnone
      · intro hnone
        cases hbody.symm.trans hnone
      · intro failure hfailure
        cases hbody.symm.trans hfailure
        exact ⟨rfl, rfl⟩

/-! ## Requests -/

/-- What is done with a successful result does not matter to an error. -/
theorem Run.andThen_error {σ α β : Type} {run : Run σ α} {e : ClientError}
    (h : run.result = .error e) (f : α → Except ClientError β) :
    (run.andThen f).result = .error e := by
  rw [Run.andThen, h]
  rfl

namespace Client

variable {σ α : Type} [Transport σ]

/-- What typed execution adds to a draft is a header, which does not decide whether it builds. -/
theorem build_accepting {c : Client} {resolver : Resolver} {d : Draft} {request : Request}
    (h : (c.build resolver d).result = .ok request) (codec : Codec) :
    ∃ asked, (c.build resolver (d.accepting codec)).result = .ok asked := by
  rw [Draft.accepting]
  split
  · obtain ⟨hencoding, resolved, hresolved, -⟩ := build_eq_ok_iff_resolved.1 h
    exact ⟨_, build_eq_ok_iff_resolved.2 ⟨hencoding, resolved, hresolved, rfl⟩⟩
  · exact ⟨request, h⟩

/-- A request that is answered with a status outside 200 to 299 fails. -/
theorem dispatch_rejected {c : Client} {resolver : Resolver} {d : Draft} {request : Request}
    (hbuild : (c.build resolver d).result = .ok request) (transport : σ) {incoming : Incoming}
    (hsent : (Transport.send transport request).1 = .ok incoming)
    (hstatus : incoming.status.isSuccess = false) (format : BodyFormat) :
    (c.dispatch resolver transport d format).result =
      .error (.inOperation d.operationName (Exchange.rejection incoming)) := by
  rw [dispatch_of_ok hbuild]
  simp only
  rw [hsent, Exchange.of_rejected hstatus, Fallible.mapError_error, Exchange.tag_rejection]

/-- A response outside 200 to 299 makes a request fail, sent one way or another, and the status is
reported exactly if the body does not break off before its start has arrived. -/
theorem status_reported_iff {c : Client} {resolver : Resolver} {d : Draft} {request : Request}
    (hbuild : (c.build resolver d).result = .ok request) (transport : σ) (decoder : Decoder α) :
    (∀ incoming, (Transport.send transport request).1 = .ok incoming →
      incoming.status.isSuccess = false →
        ∃ e, (c.send resolver transport d).result = .error e ∧ ReportedBy incoming e) ∧
    ∃ asked, (c.build resolver (d.accepting decoder.codec)).result = .ok asked ∧
      ∀ incoming, (Transport.send transport asked).1 = .ok incoming →
        incoming.status.isSuccess = false →
          ∃ e, (c.executeDecoded resolver transport d decoder).result = .error e ∧
            (c.execute resolver transport d decoder).result = .error e ∧
              ReportedBy incoming e := by
  constructor
  · intro incoming hsent hstatus
    have hdispatch := dispatch_rejected hbuild transport hsent hstatus .text
    exact ⟨_, hdispatch, reportedBy_rejection _ incoming⟩
  · obtain ⟨asked, hasked⟩ := build_accepting hbuild decoder.codec
    refine ⟨asked, hasked, ?_⟩
    intro incoming hsent hstatus
    -- neither decoding nor taking the value gets to see the error
    have hdispatch := dispatch_rejected hasked transport hsent hstatus decoder.codec.format
    have hdecoded : (c.executeDecoded resolver transport d decoder).result = .error _ :=
      Run.andThen_error hdispatch _
    exact ⟨_, hdecoded, Run.andThen_error hdecoded _, reportedBy_rejection _ incoming⟩

/-! ## A busy service -/

/-- A service that is busy says so, and its answer may break off. -/
def busy (failure : Option TransportError) : Incoming where
  status := ⟨503⟩
  headers := (default : Headers).append "retry-after" (Utf8.encode "1")
  contentLength := none
  body := ⟨[Utf8.encode "busy"], failure⟩

/-- A request for a path without placeholders. -/
def plainDraft : Draft := .ofCalls .get "/x" [.operation "Op"]

/-- Nothing but the template and the body decides whether a request can be built. -/
theorem build_plain {c : Client} {d : Draft} (htemplate : d.template = "/x")
    (hbody : d.encodingFailure = none) :
    ∃ request, (c.build default d).result = .ok request := by
  have hparse : UrlTemplate.parse d.template =
      .ok ⟨"/x", PathTemplate.build [.literal "/x"], .empty⟩ := by
    rw [htemplate]
    exact UrlTemplate.parse_of_canonical ⟨by decide, by decide, by decide, by decide, by decide⟩
      (by decide) (by decide)
  have hrender : (PathTemplate.build [.literal "/x"]).render d.params = .ok "/x" := rfl
  exact ⟨_, (build_eq_ok_iff reachable_default).2 ⟨hbody, _, _, hparse, hrender, rfl⟩⟩

theorem build_plainDraft : ∃ request, (sample.build default plainDraft).result = .ok request :=
  build_plain rfl rfl

theorem busy_status_reported :
    ∃ e, (sample.send default (⟨[.ok (busy none)]⟩ : Script) plainDraft).result = .error e ∧
      e.status? = some ⟨503⟩ := by
  obtain ⟨request, hbuild⟩ := build_plainDraft
  have hstatus := status_reported_iff hbuild (⟨[.ok (busy none)]⟩ : Script) Decoder.json
  obtain ⟨e, he, hreported⟩ := hstatus.1 (busy none) rfl rfl
  exact ⟨e, he, hreported.status_iff.2 (by decide)⟩

/-- The status of an answer that breaks off is lost. -/
theorem broken_answer_loses_status :
    (∃ request, (sample.build default plainDraft).result = .ok request) ∧
      (busy (some ⟨"reset"⟩)).status.isSuccess = false ∧
      (sample.send default (⟨[.ok (busy (some ⟨"reset"⟩))]⟩ : Script) plainDraft).result =
        .error (.inOperation "Op" (.transport ⟨"reset"⟩)) ∧
      (ClientError.inOperation "Op" (.transport ⟨"reset"⟩)).status? = none := by
  obtain ⟨request, hbuild⟩ := build_plainDraft
  refine ⟨⟨request, hbuild⟩, rfl, ?_, rfl⟩
  have hbody : (busy (some ⟨"reset"⟩)).body.failureWithin BodyText.limit = some ⟨"reset"⟩ := by
    decide
  have hsent :=
    dispatch_rejected hbuild (⟨[.ok (busy (some ⟨"reset"⟩))]⟩ : Script) rfl rfl .text
  rw [Exchange.rejection, hbody] at hsent
  exact hsent

end Client

end RestTemplates
