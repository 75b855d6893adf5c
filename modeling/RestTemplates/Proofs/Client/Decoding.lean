import RestTemplates.Proofs.Client.ErrorBodies
import RestTemplates.Proofs.Client.Tagging

/-!
# Decoding — which responses give a value

A response gives a value if its status is one of success, if it is allowed to have content or none
is asked for, and if its body decodes.  Several of these can fail at once, as with a response to
HEAD that was not found; the first of them in this order is what the error speaks of.

This file defines:

* `Decoder.Admits`, the responses whose bodies are decoded,
* `Decoder.Refuses`, the reasons why there is no value, in their order,
* `Incoming.answering`, a response as it is given to the caller.

It proves:

* `Decoder.decodes_or_refuses`, there is a value or a reason,
* `Client.dispatch_delivered`, a response of success is delivered with its whole body,
* `Client.typed_outcome`, what comes of a request whose response is decoded.
-/

namespace RestTemplates

open Fallible

/-! ## Statuses -/

namespace Status

variable {status : Status}

theorem isSuccess_iff : status.isSuccess = true ↔ 200 ≤ status.code ∧ status.code < 300 := by
  simp [isSuccess]

theorem hasNoContent_iff : status.hasNoContent = true ↔ status.code = 204 ∨ status.code = 205 := by
  simp [hasNoContent]

end Status

/-! ## Values and reasons -/

/-- The response to a request, with its body or what its body was decoded to. -/
def Incoming.answering {α : Type} (incoming : Incoming) (request : Request) (body : α) :
    Response α :=
  { info := request.info
    url := request.url
    status := incoming.status
    headers := incoming.headers
    body }

namespace Decoder

variable {α : Type} {decoder : Decoder α} {info : RequestInfo} {incoming : Incoming}

/-- The status is one of success, and unless no content is asked for, the response may have some. -/
structure Admits (decoder : Decoder α) (info : RequestInfo) (status : Status) : Prop where
  success : 200 ≤ status.code ∧ status.code < 300
  content :
    decoder.codec.hasNoContent = true ∨
      info.method ≠ .head ∧ status.code ≠ 204 ∧ status.code ≠ 205

/-- The reason why a response gives no value; each one requires that those before it do not
apply. -/
inductive Refuses (decoder : Decoder α) (info : RequestInfo) (incoming : Incoming) :
    ClientError → Prop
  | status :
      ¬ (200 ≤ incoming.status.code ∧ incoming.status.code < 300) →
      Refuses decoder info incoming
        (.httpStatus incoming.status incoming.headers
          (BodyText.describe incoming.headers (incoming.bytes.take BodyText.limit)
            incoming.contentLength))
  | head :
      200 ≤ incoming.status.code ∧ incoming.status.code < 300 →
      decoder.codec.hasNoContent = false →
      info.method = .head →
      Refuses decoder info incoming (.headHasNoContent info.operation)
  | emptyStatus :
      decoder.codec.hasNoContent = false →
      info.method ≠ .head →
      incoming.status.code = 204 ∨ incoming.status.code = 205 →
      Refuses decoder info incoming (.statusHasNoContent info.operation incoming.status)
  | body {failure : DecodeError} :
      decoder.Admits info incoming.status →
      decoder.decode incoming.bytes = .error failure →
      Refuses decoder info incoming
        (.decode failure (BodyText.describe incoming.headers incoming.bytes none))

/-- No reason has the name of an operation in front. -/
theorem Refuses.root_eq {reason : ClientError} (h : decoder.Refuses info incoming reason) :
    reason.root = reason := by
  cases h <;> rfl

theorem decodes_or_refuses (decoder : Decoder α) (info : RequestInfo) (incoming : Incoming) :
    (decoder.Admits info incoming.status ∧ ∃ value, decoder.decode incoming.bytes = .ok value) ∨
      ∃ reason, decoder.Refuses info incoming reason := by
  have hadmitted (hadmits : decoder.Admits info incoming.status) :
      (decoder.Admits info incoming.status ∧ ∃ value, decoder.decode incoming.bytes = .ok value) ∨
        ∃ reason, decoder.Refuses info incoming reason := by
    cases hdecode : decoder.decode incoming.bytes with
    | ok value => exact .inl ⟨hadmits, value, rfl⟩
    | error failure => exact .inr ⟨_, .body hadmits hdecode⟩
  -- the reasons are tried in their order, and the body comes last
  by_cases hsuccess : 200 ≤ incoming.status.code ∧ incoming.status.code < 300
  · cases hcodec : decoder.codec.hasNoContent with
    | true => exact hadmitted ⟨hsuccess, .inl hcodec⟩
    | false =>
        by_cases hmethod : info.method = .head
        · exact .inr ⟨_, .head hsuccess hcodec hmethod⟩
        · by_cases hstatus : incoming.status.code = 204 ∨ incoming.status.code = 205
          · exact .inr ⟨_, .emptyStatus hcodec hmethod hstatus⟩
          · exact hadmitted ⟨hsuccess, .inr ⟨hmethod, not_or.1 hstatus⟩⟩
  · exact .inr ⟨_, .status hsuccess⟩

/-! ## Reading a response -/

/-- Neither of the two rules on content stands in the way. -/
theorem Admits.not_empty {status : Status} (h : decoder.Admits info status) :
    ¬ (info.method = .head ∧ !decoder.codec.hasNoContent) ∧
      ¬ (status.hasNoContent ∧ !decoder.codec.hasNoContent) := by
  rw [Status.hasNoContent_iff]
  rcases h.content with hcodec | ⟨hmethod, hfour, hfive⟩
  · simp [hcodec]
  · simp [hmethod, hfour, hfive]

theorem read_eq_ok {request : Request} {value : α}
    (hadmits : decoder.Admits request.info incoming.status)
    (hdecode : decoder.decode incoming.bytes = .ok value) :
    decoder.read (incoming.answering request incoming.bytes) =
      .ok (incoming.answering request value) := by
  obtain ⟨hhead, hstatus⟩ := hadmits.not_empty
  simp only [read, Incoming.answering, hhead, hstatus, if_false, hdecode]

/-- What is wrong with a response of success is found when it is read. -/
theorem Refuses.read_eq {reason : ClientError} {request : Request}
    (h : decoder.Refuses request.info incoming reason)
    (hsuccess : 200 ≤ incoming.status.code ∧ incoming.status.code < 300) :
    decoder.read (incoming.answering request incoming.bytes) = .error reason := by
  cases h with
  | status hfails => exact absurd hsuccess hfails
  | head _ hcodec hmethod =>
      rw [read, if_pos ⟨hmethod, by rw [hcodec]; rfl⟩]
      rfl
  | emptyStatus hcodec hmethod hstatus =>
      rw [read, if_neg fun hhead => hmethod hhead.1,
        if_pos ⟨Status.hasNoContent_iff.2 hstatus, by rw [hcodec]; rfl⟩]
      rfl
  | body hadmits hdecode =>
      obtain ⟨hhead, hstatus⟩ := hadmits.not_empty
      simp only [read, Incoming.answering, hhead, hstatus, if_false, hdecode]

/-! ## The decoders of plain bodies -/

/-- Text is what the bytes of a body are read as, if they are the bytes of a text. -/
theorem text_decode_eq_ok_iff {bytes : Bytes} {text : String} :
    Decoder.text.decode bytes = .ok text ↔ Utf8.encode text = bytes := by
  have hdecode : Decoder.text.decode bytes = (Utf8.decode bytes).mapError .text := rfl
  rw [hdecode, mapError_eq_ok_iff, ← Utf8.decode?_eq_some_iff, Utf8.decode?]
  cases Utf8.decode bytes <;> simp [Except.toOption]

theorem text_decode_fails_iff {bytes : Bytes} :
    (∃ failure, Decoder.text.decode bytes = .error failure) ↔ ∀ text, Utf8.encode text ≠ bytes := by
  constructor
  · rintro ⟨failure, hfailure⟩ text htext
    cases hfailure.symm.trans (text_decode_eq_ok_iff.2 htext)
  · intro hnone
    cases hdecode : Decoder.text.decode bytes with
    | ok text => exact absurd (text_decode_eq_ok_iff.1 hdecode) (hnone text)
    | error failure => exact ⟨failure, rfl⟩

end Decoder

/-! ## Requests -/

namespace Client

variable {σ α : Type} [Transport σ] {c : Client} {resolver : Resolver} {d : Draft}
  {request : Request} {incoming : Incoming} {decoder : Decoder α}

/-- A response of success, whose body comes to its end, is delivered with all of it. -/
theorem dispatch_delivered (hbuild : (c.build resolver d).result = .ok request) (transport : σ)
    (hsent : (Transport.send transport request).1 = .ok incoming)
    (hsuccess : incoming.status.isSuccess = true) (hended : incoming.body.failure = none)
    (format : BodyFormat) :
    (c.dispatch resolver transport d format).result =
      .ok (incoming.answering request incoming.bytes) := by
  have hread : incoming.read = .ok incoming.bytes := by
    rw [Incoming.read, if_pos hsuccess]
    exact BodyStream.readAll_eq_ok_iff.2 ⟨hended, rfl⟩
  have harrival : Exchange.arrival (Transport.send transport request).1 =
      .ok (incoming, incoming.bytes) :=
    Exchange.arrival_eq_ok_iff.2 ⟨hsent, hread⟩
  rw [dispatch_of_ok hbuild]
  simp only
  rw [Exchange.of_arrival_ok harrival, Exchange.verdict, if_pos hsuccess]
  rfl

theorem method_accepting (d : Draft) (codec : Codec) : (d.accepting codec).method = d.method := by
  rw [Draft.accepting]
  split <;> rfl

theorem method_of_build (hbuild : (c.build resolver d).result = .ok request) :
    request.info.method = d.method := by
  obtain ⟨-, resolved, -, rfl⟩ := build_eq_ok_iff_resolved.1 hbuild
  rfl

/-- What was delivered is read by the decoder, and nothing else is done with it. -/
theorem executeDecoded_of_delivered {transport : σ} {r : Response Bytes}
    (h : (c.dispatch resolver transport (d.accepting decoder.codec) decoder.codec.format).result =
      .ok r) :
    (c.executeDecoded resolver transport d decoder).result =
      (decoder.read r).mapError (ClientError.tag d.operationName) := by
  rw [executeDecoded, Run.andThen, h]
  rfl

section Outcome

variable {transport : σ}
  (hasked : (c.build resolver (d.accepting decoder.codec)).result = .ok request)
  (hsent : (Transport.send transport request).1 = .ok incoming)
  (hended : incoming.body.failure = none)

include hasked hsent hended

theorem executeDecoded_decoded {value : α} (hadmits : decoder.Admits request.info incoming.status)
    (hdecode : decoder.decode incoming.bytes = .ok value) :
    (c.executeDecoded resolver transport d decoder).result =
      .ok (incoming.answering request value) := by
  have hsuccess := Status.isSuccess_iff.2 hadmits.success
  rw [executeDecoded_of_delivered (dispatch_delivered hasked transport hsent hsuccess hended _),
    Decoder.read_eq_ok hadmits hdecode]
  rfl

theorem executeDecoded_refused {reason : ClientError}
    (h : decoder.Refuses request.info incoming reason) :
    (c.executeDecoded resolver transport d decoder).result =
      .error (.inOperation d.operationName reason) := by
  by_cases hsuccess : 200 ≤ incoming.status.code ∧ incoming.status.code < 300
  · have hdelivered := dispatch_delivered hasked transport hsent (Status.isSuccess_iff.2 hsuccess)
      hended decoder.codec.format
    rw [executeDecoded_of_delivered hdelivered, h.read_eq hsuccess]
    cases h <;> rfl
  · -- a status outside 200 to 299 is an error before anything is decoded
    have hstatus : incoming.status.isSuccess = false :=
      Bool.eq_false_iff.2 fun hsuccess' => hsuccess (Status.isSuccess_iff.1 hsuccess')
    have hrejection : Exchange.rejection incoming = reason := by
      rw [rejection_of_ended hended]
      cases h with
      | status => rfl
      | head hsuccess' => exact absurd hsuccess' hsuccess
      | emptyStatus _ _ hcode => omega
      | body hadmits => exact absurd hadmits.success hsuccess
    have hdispatch := dispatch_rejected hasked transport hsent hstatus decoder.codec.format
    rw [hrejection, operationName_accepting] at hdispatch
    exact Run.andThen_error hdispatch _

end Outcome

/-- A request whose response is decoded gives a value exactly if the status is one of success, the
response may have content or the decoder asks for none, and the decoder accepts the whole body; the
value comes with the status and the headers of the response and with what is known of the request.
Otherwise the error names the operation and has the first reason that applies.  The decoder for no
content accepts every body, the one for bytes gives them as they are, and the one for text gives the
text of which they are the bytes, if there is one. -/
theorem typed_outcome (decoder : Decoder α) {asked : Request}
    (hasked : (c.build resolver (d.accepting decoder.codec)).result = .ok asked) (transport : σ)
    (hsent : (Transport.send transport asked).1 = .ok incoming)
    (hended : incoming.body.failure = none) :
    (asked.info.method = d.method ∧ asked.info.operation = d.operationName) ∧
      (∀ r, (c.executeDecoded resolver transport d decoder).result = .ok r ↔
        decoder.Admits asked.info incoming.status ∧
          ∃ value, decoder.decode incoming.bytes = .ok value ∧
            r = incoming.answering asked value) ∧
      (∀ e, (c.executeDecoded resolver transport d decoder).result = .error e ↔
        e = .inOperation d.operationName e.root ∧ decoder.Refuses asked.info incoming e.root) ∧
      (Decoder.noContent.codec.hasNoContent = true ∧
        ∀ bytes, Decoder.noContent.decode bytes = .ok ()) ∧
      (Decoder.binary.codec.hasNoContent = false ∧
        ∀ bytes, Decoder.binary.decode bytes = .ok bytes) ∧
      Decoder.text.codec.hasNoContent = false ∧
        ∀ bytes,
          (∀ text, Decoder.text.decode bytes = .ok text ↔ Utf8.encode text = bytes) ∧
          ((∃ failure, Decoder.text.decode bytes = .error failure) ↔
            ∀ text, Utf8.encode text ≠ bytes) := by
  have hmethod : asked.info.method = d.method := by
    rw [method_of_build hasked, method_accepting]
  have hoperation : asked.info.operation = d.operationName := by
    rw [operation_of_build hasked, operationName_accepting]
  refine ⟨⟨hmethod, hoperation⟩, ?_, ?_, ⟨rfl, fun _ => rfl⟩, ⟨rfl, fun _ => rfl⟩, rfl,
    fun _ => ⟨fun _ => Decoder.text_decode_eq_ok_iff, Decoder.text_decode_fails_iff⟩⟩
  -- there is a value or a reason, and either of them determines the result
  · intro r
    constructor
    · intro hresult
      rcases decoder.decodes_or_refuses asked.info incoming with
        ⟨hadmits, value, hdecode⟩ | ⟨reason, hrefuses⟩
      · rw [executeDecoded_decoded hasked hsent hended hadmits hdecode] at hresult
        exact ⟨hadmits, value, hdecode, (Except.ok.inj hresult).symm⟩
      · rw [executeDecoded_refused hasked hsent hended hrefuses] at hresult
        cases hresult
    · rintro ⟨hadmits, value, hdecode, rfl⟩
      exact executeDecoded_decoded hasked hsent hended hadmits hdecode
  · intro e
    constructor
    · intro hresult
      rcases decoder.decodes_or_refuses asked.info incoming with
        ⟨hadmits, value, hdecode⟩ | ⟨reason, hrefuses⟩
      · rw [executeDecoded_decoded hasked hsent hended hadmits hdecode] at hresult
        cases hresult
      · rw [executeDecoded_refused hasked hsent hended hrefuses] at hresult
        cases hresult
        rw [ClientError.root, hrefuses.root_eq]
        exact ⟨rfl, hrefuses⟩
    · rintro ⟨htagged, hrefuses⟩
      rw [htagged]
      exact executeDecoded_refused hasked hsent hended hrefuses

/-- A greeting in two pieces. -/
def greeting (status : Status) : Incoming where
  status := status
  headers := default
  contentLength := none
  body := ⟨[Utf8.encode "hel", Utf8.encode "lo"], none⟩

/-- The pieces are decoded together; with a status without content they are ignored or refused. -/
theorem greeting_decoded :
    (∃ asked, (sample.executeDecoded default (⟨[.ok (greeting ⟨200⟩)]⟩ : Script) plainDraft
      Decoder.text).result = .ok ((greeting ⟨200⟩).answering asked "hello")) ∧
    (∃ asked, (sample.executeDecoded default (⟨[.ok (greeting ⟨204⟩)]⟩ : Script) plainDraft
      Decoder.noContent).result = .ok ((greeting ⟨204⟩).answering asked ())) ∧
    (sample.executeDecoded default (⟨[.ok (greeting ⟨204⟩)]⟩ : Script) plainDraft
      Decoder.text).result = .error (.inOperation "Op" (.statusHasNoContent "Op" ⟨204⟩)) := by
  obtain ⟨request, hbuild⟩ := build_plainDraft
  refine ⟨?_, ?_, ?_⟩
  · obtain ⟨asked, hasked⟩ := build_accepting hbuild Decoder.text.codec
    obtain ⟨⟨hmethod, -⟩, hok, -⟩ := typed_outcome Decoder.text hasked
      (⟨[.ok (greeting ⟨200⟩)]⟩ : Script) rfl rfl
    have hdecode : Decoder.text.decode (greeting ⟨200⟩).bytes = .ok "hello" :=
      Decoder.text_decode_eq_ok_iff.2 (by decide)
    have hadmits : Decoder.text.Admits asked.info ⟨200⟩ :=
      ⟨by decide, .inr ⟨by rw [hmethod]; decide, by decide, by decide⟩⟩
    exact ⟨asked, (hok _).2 ⟨hadmits, _, hdecode, rfl⟩⟩
  · obtain ⟨asked, hasked⟩ := build_accepting hbuild Decoder.noContent.codec
    obtain ⟨-, hok, -⟩ := typed_outcome Decoder.noContent hasked
      (⟨[.ok (greeting ⟨204⟩)]⟩ : Script) rfl rfl
    exact ⟨asked, (hok _).2 ⟨⟨by decide, .inl rfl⟩, (), rfl, rfl⟩⟩
  · obtain ⟨asked, hasked⟩ := build_accepting hbuild Decoder.text.codec
    obtain ⟨⟨hmethod, hoperation⟩, -, herror, -⟩ := typed_outcome Decoder.text hasked
      (⟨[.ok (greeting ⟨204⟩)]⟩ : Script) rfl rfl
    have hrefuses : Decoder.text.Refuses asked.info (greeting ⟨204⟩)
        (.statusHasNoContent asked.info.operation ⟨204⟩) :=
      .emptyStatus rfl (by rw [hmethod]; decide) (by decide)
    rw [hoperation] at hrefuses
    exact (herror _).2 ⟨rfl, hrefuses⟩

end Client

end RestTemplates
