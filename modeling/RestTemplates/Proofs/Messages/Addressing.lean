import RestTemplates.Proofs.Client.Headers
import RestTemplates.Proofs.Messages.Targets

/-!
# Addressing — what a message call asks for

A message call hands the transport one request, which is built from its name and its arguments and
from nothing else: neither the headers and the merge policy of the client nor what was looked up
before have a say in where it goes.  A call that names a dot segment hands over nothing.

This file defines:

* `MessageCall.Addresses`, what a request has to be to ask for what a call is about.

It proves:

* `MessageCall.exists_sent`, the request that a call sends, and `MessageCall.not_sent`,
* `MessageCall.addressed_exactly`, both of them for all calls.
-/

namespace RestTemplates

/-! ## Typed execution -/

namespace Client

variable {σ α : Type} [Transport σ]

/-- A draft whose template is not resolved is not built. -/
theorem build_of_unresolved {c : Client} {resolver : Resolver} {d : Draft}
    {failure : ResolutionError} (hencoding : d.encodingFailure = none)
    (h : (resolver.renderWith d.template d.params d.query
      (d.policy.getD resolver.policy)).result = .error failure) :
    (c.build resolver d).result = .error (.inOperation d.operationName (.resolution failure)) := by
  rw [build, hencoding]
  simp only [h]
  rfl

/-- Typed execution does not change that. -/
theorem build_accepting_of_unresolved {c : Client} {resolver : Resolver} {d : Draft}
    {failure : ResolutionError} (hencoding : d.encodingFailure = none)
    (h : (resolver.renderWith d.template d.params d.query
      (d.policy.getD resolver.policy)).result = .error failure) (codec : Codec) :
    (c.build resolver (d.accepting codec)).result =
      .error (.inOperation d.operationName (.resolution failure)) := by
  rw [Draft.accepting]
  split
  · -- one more header makes no difference to the template and what is bound in it
    exact build_of_unresolved hencoding h
  · exact build_of_unresolved hencoding h

theorem transmits_execute (c : Client) (resolver : Resolver) (before : Recorder σ) (d : Draft)
    (decoder : Decoder α) :
    Transmits (c.build resolver (d.accepting decoder.codec)) before
      (c.execute resolver before d decoder) :=
  ((c.transmits_dispatch resolver before _ decoder.codec.format).andThen _).andThen _

end Client

namespace MessageCall

variable {call : MessageCall} {resolver : Resolver} {σ : Type} [Transport σ]

/-! ## Requests -/

/-- The request that a call sends: its target, and headers to which typed execution may add. -/
theorem exists_sent (h : resolver.cache.Reachable)
    (hname : PathTemplate.isDotSegment call.name = false) (c : Client) (before : Recorder σ) :
    let after := (call.run c resolver before).transport
    ∃ request : Request,
      after.received = before.received ++ [request] ∧
      after.carrier = (Transport.send before.carrier request).2 ∧
      request = { c.requestOf call.draft call.target with headers := request.headers } ∧
      ∀ name, request.headers.values name =
        if name = HeaderName.accept ∧ call.draft.asksFor call.decoder.codec = true then
          [Utf8.encode call.decoder.codec.contentType]
        else (c.headersOf call.draft).values name := by
  intro after
  obtain ⟨request, hbuild, hsame, hheaders⟩ :=
    Client.build_accepting_exact (call.build_draft h hname c) call.decoder.codec
  obtain ⟨hreceived, hcarrier⟩ :=
    (c.transmits_execute resolver before call.draft call.decoder).handed request hbuild
  exact ⟨request, hreceived, hcarrier, hsame, hheaders⟩

/-- A name that is a dot segment ends the call before anything is sent. -/
theorem not_sent (h : resolver.cache.Reachable)
    (hname : PathTemplate.isDotSegment call.name = true) (c : Client) (before : Recorder σ) :
    (call.run c resolver before).transport = before ∧
      (call.run c resolver before).result =
        .error (.inOperation call.operation.label (.resolution
          ⟨call.operation.template,
            .invalidParameter call.operation.resource.placeholder .dotSegment⟩)) := by
  have hbuild : (c.build resolver (call.draft.accepting call.decoder.codec)).result = _ :=
    Client.build_accepting_of_unresolved call.encodingFailure_draft
      (call.unresolved_draft h hname) call.decoder.codec
  obtain ⟨hresult, htransport⟩ :=
    (c.transmits_execute resolver before call.draft call.decoder).refused _ hbuild
  refine ⟨htransport, ?_⟩
  rw [run, hresult, operationName_draft]
  -- this is no status, so a call that looks for a message does not take it for an answer
  cases call <;> rfl

/-! ## Addresses -/

/-- A request asks for what a call is about, at a client with the given base URL: the name of the
call is one segment of the path, and the arguments of the call are the query. -/
structure Addresses (call : MessageCall) (base : Url) (request : Request) : Prop where
  method : request.info.method = call.operation.method
  operation : request.info.operation = call.operation.label
  path : ∃ segment : String, '/' ∉ segment.toList ∧
    Percent.decode (Utf8.encode segment) = Utf8.encode call.name ∧
    request.url.path = call.operation.resource.pathOf segment
  query : request.url.queryPairs = MultiMap.pairsOf call.arguments
  unasked : request.url.query = none ↔ MultiMap.pairsOf call.arguments = []
  elsewhere : request.url =
    { base with path := request.url.path, query := request.url.query }

theorem pairs_target (call : MessageCall) :
    call.target.query.pairs = MultiMap.pairsOf call.arguments :=
  MultiMap.pairs_ofPairs_pairsOf call.sorted_arguments

theorem addresses_of_target (hname : PathTemplate.isDotSegment call.name = false) {c : Client}
    {request : Request}
    (h : request = { c.requestOf call.draft call.target with headers := request.headers }) :
    call.Addresses c.base request := by
  have hurl : request.url = c.targetUrl call.target := by
    rw [h]
    rfl
  have htarget := hurl.trans (targetUrl_target hname c)
  refine ⟨?_, ?_, ⟨PathTemplate.encodeValue call.name, ?_, ?_, ?_⟩, ?_, ?_, ?_⟩
  · rw [h]
    exact call.method_draft
  · rw [h]
    exact call.operationName_draft
  · intro hslash
    exact (PathTemplate.isPlain_of_mem_encodeValue hslash).2 rfl
  · rw [PathTemplate.utf8_encodeValue, PathTemplate.decode_encodeValue]
  · rw [htarget]
    rfl
  · rw [hurl, Client.queryPairs_targetUrl, pairs_target]
  · rw [hurl, Client.query_targetUrl, ResolvedPath.queryString?_eq_none_iff,
      ← MultiMap.pairs_eq_nil_iff, pairs_target]
  · rw [htarget]

/-- A call asks for exactly what it is about, once, whatever its name and its arguments are and
whichever headers and policy the client has.  Only a dot segment is no name: such a call is refused,
and nothing is sent. -/
theorem addressed_exactly (h : resolver.cache.Reachable) (c : Client) (before : Recorder σ)
    (call : MessageCall) :
    let ran := call.run c resolver before
    (call.name ≠ "." → call.name ≠ ".." →
      ∃ request, call.Addresses c.base request ∧
        ran.transport.received = before.received ++ [request] ∧
        ran.transport.carrier = (Transport.send before.carrier request).2) ∧
    (call.name = "." ∨ call.name = ".." →
      ran.transport = before ∧
        ∃ e, ran.result = .error e ∧
          e.root = .resolution ⟨call.operation.template,
            .invalidParameter call.operation.resource.placeholder .dotSegment⟩) := by
  intro ran
  constructor
  · intro hone htwo
    have hname : PathTemplate.isDotSegment call.name = false := by
      simp [PathTemplate.isDotSegment, hone, htwo]
    obtain ⟨request, hreceived, hcarrier, hsame, -⟩ := exists_sent h hname c before
    exact ⟨request, addresses_of_target hname hsame, hreceived, hcarrier⟩
  · intro hdots
    have hname : PathTemplate.isDotSegment call.name = true := by
      simpa [PathTemplate.isDotSegment] using hdots
    obtain ⟨htransport, hresult⟩ := not_sent h hname c before
    exact ⟨htransport, _, hresult, rfl⟩

/-- A listing of a mailbox with a slash in its name, and a look for a message named by two dots. -/
theorem listing_addressed :
    let listing := MessageCall.list "a/b" ⟨some 5, none, ["x&y", "ü"]⟩
    let before : Recorder Script := ⟨[], ⟨[.ok (Client.busy none)]⟩⟩
    (∃ request, (listing.run Client.sample default before).transport.received = [request] ∧
      request.info.method = .get ∧
      (∃ segment : String, '/' ∉ segment.toList ∧
        Percent.decode (Utf8.encode segment) = Utf8.encode "a/b" ∧
        request.url.path = "/apis/v1/mailboxes/" ++ segment ++ "/messages") ∧
      request.url.queryPairs =
        [("Action", "ListMessages"), ("Filter", "x&y"), ("Filter", "ü"), ("MaxResults", "5"),
          ("Version", "2020-01-01")]) ∧
    ((MessageCall.probe "..").run Client.sample default before).transport = before := by
  intro listing before
  obtain ⟨request, haddresses, hreceived, -⟩ :=
    (addressed_exactly Client.reachable_default Client.sample before listing).1
      (by decide) (by decide)
  have hrefused :=
    (addressed_exactly Client.reachable_default Client.sample before (.probe "..")).2
      (.inr rfl)
  exact ⟨⟨request, hreceived, haddresses.method, haddresses.path, haddresses.query⟩, hrefused.1⟩

end MessageCall

end RestTemplates
