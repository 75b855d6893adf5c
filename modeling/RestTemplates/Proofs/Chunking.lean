import RestTemplates.Proofs.Client.Reading
import RestTemplates.Proofs.Errand
import RestTemplates.Transport.Mock

/-!
# Chunking — how a body is cut makes no difference

A transport may deliver the bytes of a body in chunks of any size, empty ones among them.  Nobody
outside the exchange can tell: not from the result of a request, not from what is reported of it,
and not from anything that happens later in the session.  What counts is the bytes, and the failure
after them if so much of the body is read.

This file defines:

* `Incoming.Decides`, what becomes of a request, said in terms of the bytes alone,
* `Transport.SameContent`, transports that differ at most in how they cut bodies.

It proves:

* `flatten_chunksOf` and `ne_nil_of_mem_chunksOf`, how a mock cuts bodies,
* `Client.decides_send`, what becomes of a request,
* `Session.SameContent.step` and `Session.SameContent.run`, sessions on two such transports,
* `Session.chunks_make_no_difference`, for prepared answers and for mocks.
-/

namespace RestTemplates

open Fallible

/-! ## Chunks of a mock -/

theorem flatten_chunksOf (size : Nat) (bytes : Bytes) : (chunksOf size bytes).flatten = bytes := by
  fun_induction chunksOf size bytes with
  | case1 => rfl
  | case2 bytes h ih => rw [List.flatten_cons, ih, List.take_append_drop]

theorem ne_nil_of_mem_chunksOf {size : Nat} {bytes chunk : Bytes}
    (h : chunk ∈ chunksOf size bytes) : chunk ≠ [] := by
  fun_induction chunksOf size bytes with
  | case1 => exact absurd h List.not_mem_nil
  | case2 bytes hne ih =>
      rcases List.mem_cons.1 h with rfl | hrest
      · intro htake
        rcases List.take_eq_nil_iff.1 htake with hsize | hnil
        · exact absurd hsize (Nat.succ_ne_zero size)
        · exact hne hnil
      · exact ih hrest

/-! ## Results -/

/-- What becomes of a request that is answered: the bytes of the body decide, and the failure after
them only if so much of the body is read. -/
structure Incoming.Decides (incoming : Incoming) (request : Request)
    (result : Except ClientError (Response Bytes)) : Prop where
  whole : incoming.status.isSuccess = true → incoming.body.failure = none →
    result = .ok
      { info := request.info
        url := request.url
        status := incoming.status
        headers := incoming.headers
        body := incoming.body.chunks.flatten }
  broken : incoming.status.isSuccess = true → ∀ e, incoming.body.failure = some e →
    result = .error (.inOperation request.info.operation (.transport e))
  start : incoming.status.isSuccess = false →
    (incoming.body.failure = none ∨ 8192 ≤ incoming.body.chunks.flatten.length) →
      result = .error (.inOperation request.info.operation
        (.httpStatus incoming.status incoming.headers
          (BodyText.describe incoming.headers (incoming.body.chunks.flatten.take 8192)
            incoming.contentLength)))
  brokenStart : incoming.status.isSuccess = false → ∀ e, incoming.body.failure = some e →
    incoming.body.chunks.flatten.length < 8192 →
      result = .error (.inOperation request.info.operation (.transport e))

namespace Client

variable {σ τ : Type} [Transport σ] [Transport τ]

theorem decides_send {c : Client} {resolver : Resolver} {d : Draft} {request : Request}
    (hbuild : (c.build resolver d).result = .ok request) (transport : σ) {incoming : Incoming}
    (hsent : (Transport.send transport request).1 = .ok incoming) :
    incoming.Decides request (c.send resolver transport d).result := by
  -- what is read decides, whether that is the whole body or its start
  have hread : ∀ bytes, incoming.read = .ok bytes →
      (c.send resolver transport d).result =
        (Exchange.verdict request incoming bytes).mapError
          (ClientError.tag request.info.operation) := by
    intro bytes hbytes
    rw [send, dispatch_of_ok hbuild, hsent, operation_of_build hbuild]
    simp only
    rw [Exchange.of_arrival_ok (Exchange.arrival_eq_ok_iff.2 ⟨rfl, hbytes⟩)]
  have hunread : ∀ e, incoming.read = .error e →
      (c.send resolver transport d).result =
        .error (.inOperation request.info.operation (.transport e)) := by
    intro e he
    have harrival : Exchange.arrival (.ok incoming) = .error e := by
      rw [Exchange.arrival, Except.bind, he]
      rfl
    rw [send, dispatch_of_ok hbuild, hsent, operation_of_build hbuild]
    simp only
    rw [Exchange.of_arrival_error harrival]
    rfl
  refine ⟨?_, ?_, ?_, ?_⟩
  · intro hstatus hfailure
    have hbody : incoming.read = .ok incoming.body.chunks.flatten := by
      rw [Incoming.read, if_pos hstatus]
      exact BodyStream.readAll_eq_ok_iff.2 ⟨hfailure, rfl⟩
    rw [hread _ hbody, Exchange.verdict, if_pos hstatus]
    rfl
  · intro hstatus e hfailure
    apply hunread
    rw [Incoming.read, if_pos hstatus]
    exact BodyStream.readAll_eq_error_iff.2 hfailure
  · intro hstatus hfailure
    have hstart : incoming.read = .ok (incoming.body.chunks.flatten.take 8192) := by
      rw [Incoming.read, hstatus]
      exact BodyStream.readPreview_eq_ok_iff.2 ⟨hfailure, rfl⟩
    rw [hread _ hstart, Exchange.verdict, hstatus]
    rfl
  · intro hstatus e hfailure hshort
    apply hunread
    rw [Incoming.read, hstatus]
    exact BodyStream.readPreview_eq_error_iff.2 ⟨hfailure, hshort⟩

end Client

/-! ## Transports -/

/-- Transports that answer the same, but for how they cut bodies: their states are compared by a
relation that requests preserve. -/
def Transport.SameContent {σ τ : Type} [Transport σ] [Transport τ] (R : σ → τ → Prop) : Prop :=
  ∀ {t : σ} {t' : τ} (request : Request), R t t' →
    Both Incoming.SameContent (Transport.send t request).1 (Transport.send t' request).1 ∧
      R (Transport.send t request).2 (Transport.send t' request).2

/-- Answers that differ at most in how their bodies are cut. -/
def Script.SameContent (script script' : Script) : Prop :=
  List.Forall₂ (Both Incoming.SameContent) script.answers script'.answers

theorem Script.sameContent : Transport.SameContent Script.SameContent := by
  rintro ⟨answers⟩ ⟨answers'⟩ request h
  have hanswers : List.Forall₂ (Both Incoming.SameContent) answers answers' := h
  cases hanswers with
  | nil => exact ⟨.error _, .nil⟩
  | cons hanswer hrest => exact ⟨hanswer, hrest⟩

/-- Mocks with the same records and replies, and chunks of any size. -/
structure Mock.SameContent (m m' : Mock) : Prop where
  recorded : m.recorded = m'.recorded
  replies : m.replies = m'.replies

theorem Mock.sameContent : Transport.SameContent Mock.SameContent := by
  rintro ⟨recorded, replies, size⟩ ⟨recorded', replies', size'⟩ request ⟨hrecorded, hreplies⟩
  cases hrecorded
  cases hreplies
  cases replies with
  | nil => exact ⟨.error _, rfl, rfl⟩
  | cons reply rest =>
      have hbody : (chunksOf (size - 1) reply.body).flatten =
          (chunksOf (size' - 1) reply.body).flatten := by
        rw [flatten_chunksOf, flatten_chunksOf]
      exact ⟨.ok ⟨rfl, rfl, rfl, hbody, rfl⟩, rfl, rfl⟩

/-! ## Sessions -/

/-- Two runs of a request with everything in common but the transports, which are alike. -/
structure Run.SameContent {σ τ α : Type} (R : σ → τ → Prop) (run : Run σ α) (run' : Run τ α) :
    Prop where
  result : run'.result = run.result
  resolver : run'.resolver = run.resolver
  lookup : run'.lookup = run.lookup
  diagnostics : run'.diagnostics = run.diagnostics
  transport : R run.transport run'.transport

namespace Client

variable {σ τ : Type} [Transport σ] [Transport τ] {R : σ → τ → Prop}

theorem sameContent_dispatch (hR : Transport.SameContent R) {t : σ} {t' : τ} (h : R t t')
    (c : Client) (resolver : Resolver) (d : Draft) (format : BodyFormat) :
    Run.SameContent R (c.dispatch resolver t d format) (c.dispatch resolver t' d format) := by
  cases hbuilt : (c.build resolver d).result with
  | error e =>
      rw [dispatch_of_error hbuilt, dispatch_of_error hbuilt]
      exact ⟨rfl, rfl, rfl, rfl, h⟩
  | ok request =>
      obtain ⟨hanswers, hnext⟩ := hR request h
      have hexchange :=
        Exchange.of_congr (s := ⟨request, c.levelOf d, d.bodyFormat, format⟩) hanswers
      rw [dispatch_of_ok hbuilt, dispatch_of_ok hbuilt]
      simp only [hexchange]
      exact ⟨rfl, rfl, rfl, rfl, hnext⟩

end Client

namespace Session

variable {σ τ α : Type} [Transport σ] [Transport τ] {R : σ → τ → Prop} {s : Session σ}

/-- Two steps with the same outcome, after which the sessions still differ in their transports only,
which are alike. -/
structure SameContent {β : Type} (R : σ → τ → Prop) (stepped : Session σ × β)
    (stepped' : Session τ × β) : Prop where
  outcome : stepped'.2 = stepped.2
  session : stepped'.1 = stepped.1.withTransport stepped'.1.transport
  transport : R stepped.1.transport stepped'.1.transport

namespace SameContent

theorem act (hR : Transport.SameContent R) {t : τ} (h : R s.transport t) (index : Nat)
    (handle : Handle) (action : Action α) :
    SameContent R (s.act index handle action) ((s.withTransport t).act index handle action) := by
  cases herrand : action.errand? with
  | none =>
      rw [act_withTransport herrand]
      refine ⟨rfl, rfl, ?_⟩
      rw [transport_act_of_errand_none herrand]
      exact h
  | some errand =>
      -- the exchange is the same, and so is all that is made of it
      have hrun := Client.sameContent_dispatch hR h handle.client (s.resolverOf handle) errand.draft
        errand.responseFormat
      have hresolver : (s.withTransport t).resolverOf handle = s.resolverOf handle := rfl
      rw [act_of_errand herrand, act_of_errand herrand, hresolver]
      refine ⟨?_, ?_, hrun.transport⟩
      · exact congr (congr (congrArg (fun result lookup diagnostics => Outcome.mk
          (errand.conclude result) (handle.client.sink.log (Option.toList lookup) diagnostics))
          hrun.result) hrun.lookup) hrun.diagnostics
      · exact congrArg (fun resolver => (s.withResolver handle resolver).withTransport _)
          hrun.resolver

theorem step (hR : Transport.SameContent R) {t : τ} (h : R s.transport t) (index : Nat)
    (action : Action α) :
    SameContent R (s.step index action) ((s.withTransport t).step index action) := by
  have hhandles : (s.withTransport t).handles[index]? = s.handles[index]? := rfl
  rw [Session.step, Session.step, hhandles]
  cases s.handles[index]? with
  | none => exact ⟨rfl, rfl, h⟩
  | some handle => exact act hR h index handle action

/-- Whatever is done, nothing but the transport is ever different. -/
theorem run (hR : Transport.SameContent R) {t : τ} (h : R s.transport t)
    (actions : List (Nat × Action α)) :
    SameContent R (s.run actions) ((s.withTransport t).run actions) := by
  -- the second session is the first one on another transport, after every step again
  induction actions generalizing s t with
  | nil => exact ⟨rfl, rfl, h⟩
  | cons told rest ih =>
      have hstep := step hR h told.1 told.2
      have hrest := ih hstep.transport
      rw [← hstep.session] at hrest
      exact ⟨congrArg₂ List.cons hstep.outcome hrest.outcome, hrest.session, hrest.transport⟩

end SameContent

/-! ## Prepared answers -/

/-- A body that is read to its end is the bytes of its chunks, and a body of which the start is read
gives the first 8192 of them; a failure is met only where so many bytes do not suffice.  So the
bytes and that failure decide what becomes of a request.  Whoever cuts the bodies of prepared
answers otherwise, or sets any size of chunks for a mock, which cuts bodies into chunks that are not
empty, changes nothing about the answers and reports of any actions. -/
theorem chunks_make_no_difference (α : Type) :
    (∀ (stream : BodyStream) (bytes : Bytes) (e : TransportError),
      (stream.readAll = .ok bytes ↔
        stream.failure = none ∧ bytes = stream.chunks.flatten) ∧
      (stream.readAll = .error e ↔ stream.failure = some e) ∧
      (stream.readPreview 8192 = .ok bytes ↔
        (stream.failure = none ∨ 8192 ≤ stream.chunks.flatten.length) ∧
          bytes = stream.chunks.flatten.take 8192) ∧
      (stream.readPreview 8192 = .error e ↔
        stream.failure = some e ∧ stream.chunks.flatten.length < 8192)) ∧
    (∀ {σ : Type} [Transport σ] (c : Client) (resolver : Resolver) (transport : σ) (d : Draft)
      (request : Request) (incoming : Incoming), (c.build resolver d).result = .ok request →
        (Transport.send transport request).1 = .ok incoming →
          incoming.Decides request (c.send resolver transport d).result) ∧
    (∀ (s : Session Script) (script : Script) (actions : List (Nat × Action α)),
      s.transport.SameContent script →
        ((s.withTransport script).run actions).2 = (s.run actions).2) ∧
    (∀ (s : Session Mock) (size : Nat) (actions : List (Nat × Action α)),
      ((s.withTransport { s.transport with chunkSize := size }).run actions).2 =
        (s.run actions).2) ∧
    ∀ (m : Mock) (body : Bytes),
      (∀ chunk ∈ (m.stream body).chunks, chunk ≠ []) ∧ (m.stream body).chunks.flatten = body ∧
        (m.stream body).failure = none := by
  refine ⟨?_, ?_, ?_, ?_, ?_⟩
  · intro stream bytes e
    exact ⟨BodyStream.readAll_eq_ok_iff, BodyStream.readAll_eq_error_iff,
      BodyStream.readPreview_eq_ok_iff, BodyStream.readPreview_eq_error_iff⟩
  · intro σ _ c resolver transport d request incoming hbuild hsent
    exact Client.decides_send hbuild transport hsent
  · intro s script actions h
    exact (SameContent.run Script.sameContent h actions).outcome
  · intro s size actions
    have hsame : s.transport.SameContent { s.transport with chunkSize := size } := ⟨rfl, rfl⟩
    exact (SameContent.run Mock.sameContent hsame actions).outcome
  · intro m body
    exact ⟨fun _ hchunk => ne_nil_of_mem_chunksOf hchunk, flatten_chunksOf _ body, rfl⟩

/-- The answer of a busy service in two chunks. -/
def busyCut (first second : String) : Incoming :=
  { Client.busy none with body := ⟨[Utf8.encode first, Utf8.encode second], none⟩ }

/-- An answer in two halves and the same answer after an empty chunk. -/
theorem halves_make_no_difference :
    ((ofClient Client.sample (⟨[.ok (busyCut "" "busy")]⟩ : Script)).run
        [(0, (.send Client.plainDraft : Action Unit))]).2 =
      ((ofClient Client.sample (⟨[.ok (busyCut "bu" "sy")]⟩ : Script)).run
        [(0, (.send Client.plainDraft : Action Unit))]).2 ∧
    ∃ request, (Client.sample.build default Client.plainDraft).result = .ok request ∧
      (busyCut "bu" "sy").Decides request (Client.sample.send default
        (⟨[.ok (busyCut "bu" "sy")]⟩ : Script) Client.plainDraft).result := by
  obtain ⟨-, hdecides, hscripts, -⟩ := chunks_make_no_difference Unit
  constructor
  · have hsame : Script.SameContent ⟨[.ok (busyCut "bu" "sy")]⟩ ⟨[.ok (busyCut "" "busy")]⟩ :=
      .cons (.ok ⟨rfl, rfl, rfl, by decide, rfl⟩) .nil
    exact hscripts (ofClient Client.sample ⟨[.ok (busyCut "bu" "sy")]⟩) _ _ hsame
  · obtain ⟨request, hbuild⟩ := Client.build_plainDraft
    exact ⟨request, hbuild, hdecides _ _ _ _ _ _ hbuild rfl⟩

end Session

end RestTemplates
