import Mathlib.Data.List.Forall2
import RestTemplates.Diagnostics.Sink
import RestTemplates.Proofs.Client.Building
import RestTemplates.Proofs.Http.Secrets

/-!
# Secrecy — one exchange tells no secrets

The headers of a request come from the client and from a draft, those of a response from the
transport.  Whoever changes nothing but secrets in any of them gets the same requests and responses
but for secrets, and diagnostics that read the same.

This file defines:

* `CarriesHeaders` and `DifferInSecrets`, for everything that has headers among its parts, and
  `Call.DifferInSecrets`,
* `Diagnostic.ReadsAs`, reports that no reader can tell apart,
* `Transport.IgnoresSecrets`, transports for which secrets make no difference,
* `Run.DifferInSecrets`, what two requests have in common that differ so.

It proves:

* `Draft.differInSecrets_ofCalls`, calls that differ so make drafts that differ so,
* `Sink.log_eq`, reports that read the same make the same log,
* `Exchange.readsAs_of`, for the reports of an exchange,
* `Client.differInSecrets_dispatch`, for a request through a transport, and the same for typed
  execution.
-/

namespace RestTemplates

open Fallible

/-! ## Things with headers -/

/-- Something that has headers among its parts. -/
class CarriesHeaders (β : Type) where
  headers : β → Headers
  withHeaders : β → Headers → β

/-- Two things that have all but the values of secret headers in common. -/
def DifferInSecrets {β : Type} [CarriesHeaders β] (x y : β) : Prop :=
  ∃ others, (CarriesHeaders.headers x).DifferInSecrets others ∧
    y = CarriesHeaders.withHeaders x others

instance : CarriesHeaders Client where
  headers c := c.config.defaultHeaders
  withHeaders c headers := { c with config := { c.config with defaultHeaders := headers } }

instance : CarriesHeaders Draft where
  headers := Draft.headers
  withHeaders d headers := { d with headers }

instance : CarriesHeaders Request where
  headers := Request.headers
  withHeaders request headers := { request with headers }

instance : CarriesHeaders Incoming where
  headers := Incoming.headers
  withHeaders incoming headers := { incoming with headers }

/-! ## Drafts -/

/-- Two calls that are the same, or give a secret header different values. -/
inductive Call.DifferInSecrets : Call → Call → Prop
  | same (call : Call) : Call.DifferInSecrets call call
  | header {name : HeaderName} (h : HeaderName.HoldsSecret name) (value other : HeaderValue) :
      Call.DifferInSecrets (.header name value) (.header name other)
  | appendHeader {name : HeaderName} (h : HeaderName.HoldsSecret name)
      (value other : HeaderValue) :
      Call.DifferInSecrets (.appendHeader name value) (.appendHeader name other)

namespace Draft

variable {d d' : Draft}

theorem differInSecrets_apply (h : DifferInSecrets d d') {call call' : Call}
    (hcall : call.DifferInSecrets call') : DifferInSecrets (d.apply call) (d'.apply call') := by
  obtain ⟨others, hothers, rfl⟩ := h
  cases hcall with
  | header hname value other => exact ⟨_, hothers.set fun hno => absurd hname hno, rfl⟩
  | appendHeader hname value other => exact ⟨_, hothers.append fun hno => absurd hname hno, rfl⟩
  | same =>
      cases call with
      | header name value => exact ⟨_, hothers.set fun _ => rfl, rfl⟩
      | appendHeader name value => exact ⟨_, hothers.append fun _ => rfl, rfl⟩
      | queryOption key value => cases value <;> exact ⟨others, hothers, rfl⟩
      | encoded codec encoding => cases encoding <;> exact ⟨others, hothers, rfl⟩
      | _ => exact ⟨others, hothers, rfl⟩

theorem differInSecrets_applyAll (h : DifferInSecrets d d') {calls calls' : List Call}
    (hcalls : List.Forall₂ Call.DifferInSecrets calls calls') :
    DifferInSecrets (d.applyAll calls) (d'.applyAll calls') := by
  induction hcalls generalizing d d' with
  | nil => exact h
  | cons hcall _ ih => exact ih (differInSecrets_apply h hcall)

/-- Calls that differ in secrets fill in drafts that differ in secrets. -/
theorem differInSecrets_ofCalls (method : Method) (template : String) {calls calls' : List Call}
    (h : List.Forall₂ Call.DifferInSecrets calls calls') :
    DifferInSecrets (ofCalls method template calls) (ofCalls method template calls') := by
  have hnew : DifferInSecrets (new method template) (new method template) := ⟨_, .refl _, rfl⟩
  exact differInSecrets_applyAll hnew h

/-- What typed execution asks for is no secret. -/
theorem differInSecrets_accepting (h : DifferInSecrets d d') (codec : Codec) :
    DifferInSecrets (d.accepting codec) (d'.accepting codec) := by
  have hasks : d.asksFor codec = d'.asksFor codec := by
    obtain ⟨others, hothers, rfl⟩ := h
    have hcontains := hothers.contains_eq HeaderName.accept
    exact congrArg (codec.contentType ≠ "" && d.method ≠ .head && !·) hcontains
  rw [accepting, accepting, hasks]
  split
  · exact differInSecrets_apply h (.same _)
  · exact h

end Draft

/-! ## Reports -/

/-- Reports of which every sink for readers makes the same. -/
structure Diagnostic.ReadsAs (report other : Diagnostic) : Prop where
  detail : report.detail = other.detail
  lines : report.lines = other.lines
  events : report.events = other.events
  summary : report.summary = other.summary

namespace Diagnostic

theorem ReadsAs.refl (report : Diagnostic) : ReadsAs report report := ⟨rfl, rfl, rfl, rfl⟩

variable {headers others : Headers}

theorem readsAs_requestHeaders (h : headers.DifferInSecrets others) (level : DebugLevel) :
    ReadsAs (.requestHeaders level headers) (.requestHeaders level others) where
  detail := rfl
  lines := by
    rw [lines, lines, headerLines, headerLines, h.shown_eq]
  events := by
    rw [events, events, headerEvents, headerEvents, h.shown_eq]
  summary := congrArg (fun count => "request_headers " ++ toString count) h.count_eq

theorem readsAs_responseHeaders (h : headers.DifferInSecrets others) (level : DebugLevel) :
    ReadsAs (.responseHeaders level headers) (.responseHeaders level others) where
  detail := rfl
  lines := by
    rw [lines, lines, headerLines, headerLines, h.shown_eq]
  events := by
    rw [events, events, headerEvents, headerEvents, h.shown_eq]
  summary := congrArg (fun count => "response_headers " ++ toString count) h.count_eq

/-- How a body is described depends on its content type, which is no secret. -/
theorem describe_eq (h : headers.DifferInSecrets others) (body : Bytes)
    (fullLength : Option Nat) :
    BodyText.describe headers body fullLength = BodyText.describe others body fullLength := by
  have hname : ¬ HeaderName.HoldsSecret HeaderName.contentType := by
    decide
  have htype : BodyText.contentType headers = BodyText.contentType others := by
    rw [BodyText.contentType, BodyText.contentType, h.text?_eq hname]
  rw [BodyText.describe, BodyText.describe, htype]

theorem readsAs_responseBodyPreview (h : headers.DifferInSecrets others) (level : DebugLevel)
    (body : Bytes) (fullLength : Option Nat) :
    ReadsAs (.responseBodyPreview level headers body fullLength)
      (.responseBodyPreview level others body fullLength) where
  detail := rfl
  lines := by
    rw [lines, lines, describe_eq h]
  events := by
    rw [events, events, describe_eq h]
  summary := rfl

/-- Reports that read the same are shown at the same levels. -/
theorem readsAs_shownAt {reports others : List Diagnostic}
    (h : List.Forall₂ ReadsAs reports others) (level : DebugLevel) :
    List.Forall₂ ReadsAs (shownAt level reports) (shownAt level others) := by
  refine List.rel_filter ?_ h
  intro report other hreads
  simp only [hreads.detail]

end Diagnostic

theorem map_eq_of_forall₂ {α β : Type} {R : α → α → Prop} {f : α → β}
    (hf : ∀ a b, R a b → f a = f b) {list others : List α} (h : List.Forall₂ R list others) :
    list.map f = others.map f := by
  induction h with
  | nil => rfl
  | cons hab _ ih => rw [List.map_cons, List.map_cons, hf _ _ hab, ih]

/-- Sinks for readers make the same log of reports that read the same. -/
theorem Sink.log_eq {sink : Sink} (hsink : sink ≠ .reports) (lookups : List TemplateCache.Event)
    {reports others : List Diagnostic} (h : List.Forall₂ Diagnostic.ReadsAs reports others) :
    sink.log lookups reports = sink.log lookups others := by
  cases sink with
  | silent => rfl
  | stderr =>
      have hlines := map_eq_of_forall₂ (fun _ _ hreads => hreads.lines) h
      simp only [log, Diagnostic.textOf, List.flatMap, hlines]
  | events =>
      have hevents := map_eq_of_forall₂ (fun _ _ hreads => hreads.events) h
      simp only [log, List.flatMap, hevents]
  | summaries =>
      have hsummaries := map_eq_of_forall₂ (fun _ _ hreads => hreads.summary) h
      simp only [log, hsummaries]
  | reports => exact absurd rfl hsink

/-! ## Exchanges -/

namespace Exchange

variable {request request' : Request} (level : DebugLevel) (format responseFormat : BodyFormat)

theorem readsAs_requestDiagnostics (h : DifferInSecrets request request') :
    List.Forall₂ Diagnostic.ReadsAs
      (requestDiagnostics ⟨request, level, format, responseFormat⟩)
      (requestDiagnostics ⟨request', level, format, responseFormat⟩) := by
  obtain ⟨others, hothers, rfl⟩ := h
  refine .cons (.refl _) (.cons (Diagnostic.readsAs_requestHeaders hothers level) ?_)
  exact List.forall₂_same.2 fun report _ => .refl report

/-- What arrives is read the same and gives reports that read the same. -/
theorem readsAs_receive (h : DifferInSecrets request request') {incoming incoming' : Incoming}
    (hincoming : DifferInSecrets incoming incoming') :
    Both (fun x y => List.Forall₂ Diagnostic.ReadsAs x.2 y.2)
      (receive ⟨request, level, format, responseFormat⟩ incoming)
      (receive ⟨request', level, format, responseFormat⟩ incoming') := by
  obtain ⟨-, -, rfl⟩ := h
  obtain ⟨others, hothers, rfl⟩ := hincoming
  -- status and body are the same, so both responses are taken for the same kind
  have hstatus : (CarriesHeaders.withHeaders incoming others).status = incoming.status := rfl
  have hheaders := Diagnostic.readsAs_responseHeaders hothers level
  rw [receive, receive, hstatus]
  split
  · refine Both.map ?_ incoming.body.readAll
    intro body
    exact .cons (.refl _) (.cons hheaders (.cons (.refl _) .nil))
  · refine Both.map ?_ (incoming.body.readPreview BodyText.limit)
    intro preview
    have hpreview := Diagnostic.readsAs_responseBodyPreview hothers level preview
      incoming.contentLength
    exact .cons (.refl _) (.cons hheaders (.cons hpreview .nil))

/-- The reports of an exchange, however it ends. -/
theorem readsAs_of (h : DifferInSecrets request request')
    {answer answer' : Except TransportError Incoming}
    (hanswer : Both DifferInSecrets answer answer') :
    List.Forall₂ Diagnostic.ReadsAs
      (Exchange.of ⟨request, level, format, responseFormat⟩ answer).diagnostics
      (Exchange.of ⟨request', level, format, responseFormat⟩ answer').diagnostics := by
  have hrequest := readsAs_requestDiagnostics level format responseFormat h
  cases hanswer with
  | error e =>
      exact Diagnostic.readsAs_shownAt hrequest level
  | @ok incoming incoming' hincoming =>
      have hreceive := readsAs_receive level format responseFormat h hincoming
      rw [Exchange.of, Exchange.of, Except.bind, Except.bind]
      generalize receive ⟨request, level, format, responseFormat⟩ incoming = received at hreceive ⊢
      generalize receive ⟨request', level, format, responseFormat⟩ incoming' = received'
        at hreceive ⊢
      cases hreceive with
      | error e =>
          -- a body that broke off leaves the reports of the request
          exact Diagnostic.readsAs_shownAt hrequest level
      | ok hreceived =>
          exact Diagnostic.readsAs_shownAt (List.rel_append hrequest hreceived) level

end Exchange

/-! ## Transports -/

/-- A transport for which secrets make no difference: its states are compared by a relation that
requests preserve, and its answers differ in nothing but secrets. -/
def Transport.IgnoresSecrets {σ : Type} [Transport σ] (R : σ → σ → Prop) : Prop :=
  ∀ {t t' request request'}, R t t' → DifferInSecrets request request' →
    Both DifferInSecrets (Transport.send t request).1 (Transport.send t' request').1 ∧
      R (Transport.send t request).2 (Transport.send t' request').2

/-! ## Requests -/

/-- Two runs that leave the same resolver, transports alike, and reports that read the same. -/
structure Run.DifferInSecrets {σ α : Type} (R : σ → σ → Prop) (run run' : Run σ α) : Prop where
  resolver : run.resolver = run'.resolver
  transport : R run.transport run'.transport
  lookup : run.lookup = run'.lookup
  diagnostics : List.Forall₂ Diagnostic.ReadsAs run.diagnostics run'.diagnostics

theorem Run.DifferInSecrets.andThen {σ α β : Type} {R : σ → σ → Prop} {run run' : Run σ α}
    (h : run.DifferInSecrets R run') (f g : α → Except ClientError β) :
    (run.andThen f).DifferInSecrets R (run'.andThen g) :=
  ⟨h.resolver, h.transport, h.lookup, h.diagnostics⟩

namespace Client

variable {c c' : Client} {d d' : Draft}

theorem differInSecrets_headersOf (hc : DifferInSecrets c c') (hd : DifferInSecrets d d') :
    (c.headersOf d).DifferInSecrets (c'.headersOf d') := by
  obtain ⟨defaults, hdefaults, rfl⟩ := hc
  obtain ⟨own, hown, rfl⟩ := hd
  have hlaid := hown.laidOver hdefaults
  have hbody : (CarriesHeaders.withHeaders d own).body = d.body := rfl
  rw [headersOf, headersOf, hbody]
  cases d.body.bind (·.contentType) with
  | none => exact hlaid
  | some value =>
      -- the body gives its type in both requests, or a header does in both
      exact hlaid.withDefault HeaderName.contentType value

theorem differInSecrets_build (hc : DifferInSecrets c c') (hd : DifferInSecrets d d')
    (resolver : Resolver) :
    Both DifferInSecrets (c.build resolver d).result (c'.build resolver d').result ∧
      (c.build resolver d).resolver = (c'.build resolver d').resolver ∧
      (c.build resolver d).lookup = (c'.build resolver d').lookup := by
  have hheaders := differInSecrets_headersOf hc hd
  obtain ⟨defaults, -, rfl⟩ := hc
  obtain ⟨own, -, rfl⟩ := hd
  -- the look-up, and whether there is one, depends on no headers
  have hfailure : (CarriesHeaders.withHeaders d own).encodingFailure = d.encodingFailure := rfl
  rw [build, build, hfailure]
  cases d.encodingFailure with
  | some failure => exact ⟨.error _, rfl, rfl⟩
  | none =>
      refine ⟨?_, rfl, rfl⟩
      refine Both.mapError ?_ _
      refine Both.map ?_ _
      intro resolved
      exact ⟨_, hheaders, rfl⟩

variable {σ α : Type} [Transport σ] {R : σ → σ → Prop} {t t' : σ}

theorem differInSecrets_dispatch (hR : Transport.IgnoresSecrets R) (hc : DifferInSecrets c c')
    (hd : DifferInSecrets d d') (ht : R t t') (resolver : Resolver) (format : BodyFormat) :
    (c.dispatch resolver t d format).DifferInSecrets R (c'.dispatch resolver t' d' format) := by
  obtain ⟨hresult, hresolver, hlookup⟩ := differInSecrets_build hc hd resolver
  have hlevel : c.levelOf d = c'.levelOf d' := by
    obtain ⟨-, -, rfl⟩ := hc
    obtain ⟨-, -, rfl⟩ := hd
    rfl
  have hformat : d.bodyFormat = d'.bodyFormat := by
    obtain ⟨-, -, rfl⟩ := hd
    rfl
  generalize hbuilt : (c.build resolver d).result = result at hresult
  generalize hbuilt' : (c'.build resolver d').result = result' at hresult
  cases hresult with
  | error e =>
      rw [dispatch_of_error hbuilt, dispatch_of_error hbuilt']
      exact ⟨hresolver, ht, hlookup, .nil⟩
  | ok hrequest =>
      have hsent := hR ht hrequest
      rw [dispatch_of_ok hbuilt, dispatch_of_ok hbuilt', hlevel, hformat]
      exact ⟨hresolver, hsent.2, hlookup, Exchange.readsAs_of _ _ _ hrequest hsent.1⟩

/-- Decoding comes after the reports. -/
theorem differInSecrets_executeDecoded (hR : Transport.IgnoresSecrets R)
    (hc : DifferInSecrets c c') (hd : DifferInSecrets d d') (ht : R t t') (resolver : Resolver)
    (decoder : Decoder α) :
    (c.executeDecoded resolver t d decoder).DifferInSecrets R
      (c'.executeDecoded resolver t' d' decoder) := by
  have hasking := Draft.differInSecrets_accepting hd decoder.codec
  have hrun := differInSecrets_dispatch hR hc hasking ht resolver decoder.codec.format
  exact hrun.andThen _ _

theorem differInSecrets_execute (hR : Transport.IgnoresSecrets R) (hc : DifferInSecrets c c')
    (hd : DifferInSecrets d d') (ht : R t t') (resolver : Resolver) (decoder : Decoder α) :
    (c.execute resolver t d decoder).DifferInSecrets R (c'.execute resolver t' d' decoder) :=
  (differInSecrets_executeDecoded hR hc hd ht resolver decoder).andThen _ _

end Client

end RestTemplates
