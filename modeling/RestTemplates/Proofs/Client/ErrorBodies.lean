import RestTemplates.Proofs.BodyText
import RestTemplates.Proofs.Client.StatusErrors

/-!
# Error bodies — how much of a refused response an error shows

The start of the body is read first, and what is left of it is not counted.  Whether dots are due is
then decided by the content length alone.  Without one a body that was cut is shown like a body that
ends at the limit.

This file defines:

* `Incoming.RefusesWith`, a response that is refused and whose body begins with a text,
* `Incoming.markedBody`, what should be shown of it, and `Incoming.shownBody`, what is shown,
* `ShowsBody` and `ShowsFront`, what an error shows of a response.

It proves:

* `rejection_eq` and `Incoming.markedBody_eq_iff`, what is shown and when it is what should be,
* `Client.error_body_exact`, the same of every way to send a request.
-/

namespace RestTemplates

/-! ## Responses -/

namespace Incoming

/-- All bytes of a body, however they are cut. -/
def bytes (incoming : Incoming) : Bytes := incoming.body.chunks.flatten

/-- A response outside 200 to 299, whose body comes to its end, has the announced length if there is
one, and begins with a text as far as it is shown. -/
structure RefusesWith (incoming : Incoming) (front : String) : Prop where
  status : incoming.status.isSuccess = false
  textual : BodyText.IsTextual incoming.headers
  ended : incoming.body.failure = none
  length : ∀ n ∈ incoming.contentLength, n = incoming.bytes.length
  front : Utf8.encode front = incoming.bytes.take BodyText.limit

/-- The text of a body, with dots if it goes on. -/
def markedBody (incoming : Incoming) (front : String) : String :=
  if incoming.bytes.length ≤ BodyText.limit then front else front ++ "..."

/-- The text of a body, with dots if it is known to go on. -/
def shownBody (incoming : Incoming) (front : String) : String :=
  if incoming.contentLength = none then front else incoming.markedBody front

theorem ne_dots (front : String) : front ≠ front ++ "..." := by
  intro h
  have hsize := congrArg String.utf8ByteSize h
  rw [String.utf8ByteSize_append] at hsize
  exact absurd hsize (by simp)

/-- Dots are missing where the body goes on and its length was not announced. -/
theorem markedBody_eq_iff (incoming : Incoming) (front : String) :
    incoming.shownBody front = incoming.markedBody front ↔
      incoming.bytes.length ≤ BodyText.limit ∨ incoming.contentLength ≠ none := by
  rw [shownBody, markedBody]
  by_cases hlimit : incoming.bytes.length ≤ BodyText.limit
  · simp [hlimit]
  · by_cases hlength : incoming.contentLength = none
    · simp [hlimit, hlength, ne_dots front]
    · simp [hlength]

end Incoming

/-- An error that says of a response its status, its headers and this much of its body. -/
def ShowsBody (incoming : Incoming) (shown : String) (e : ClientError) : Prop :=
  e.root = .httpStatus incoming.status incoming.headers shown

theorem describe_eq_shownBody {incoming : Incoming} {front : String}
    (h : incoming.RefusesWith front) :
    BodyText.describe incoming.headers (incoming.bytes.take BodyText.limit)
        incoming.contentLength = incoming.shownBody front := by
  have hfront : Utf8.encode front = (incoming.bytes.take BodyText.limit).take BodyText.limit := by
    rw [h.front, List.take_take, Nat.min_self]
  rw [BodyText.describe_of_encode h.textual hfront, List.length_take, Incoming.shownBody,
    Incoming.markedBody]
  cases hlength : incoming.contentLength with
  | none =>
      -- what was read is measured against itself
      rw [if_pos rfl, Option.getD_none, decide_eq_false (by omega)]
      exact String.append_empty
  | some n =>
      have hn : n = incoming.bytes.length := h.length n (by rw [hlength]; rfl)
      rw [if_neg nofun, Option.getD_some, hn]
      by_cases hlimit : incoming.bytes.length ≤ BodyText.limit
      · rw [if_pos hlimit, decide_eq_false (by omega)]
        exact String.append_empty
      · rw [if_neg hlimit, decide_eq_true (by omega)]
        rfl

/-- A body that comes to its end leaves nothing to report but the status and the body. -/
theorem rejection_of_ended {incoming : Incoming} (h : incoming.body.failure = none) :
    Exchange.rejection incoming =
      Exchange.statusError incoming (incoming.bytes.take BodyText.limit) := by
  have hbody : incoming.body.failureWithin BodyText.limit = none := by
    rw [BodyStream.failureWithin, h, ite_self]
  rw [Exchange.rejection, hbody]
  rfl

theorem rejection_eq {incoming : Incoming} {front : String} (h : incoming.RefusesWith front) :
    Exchange.rejection incoming =
      .httpStatus incoming.status incoming.headers (incoming.shownBody front) := by
  rw [rejection_of_ended h.ended, Exchange.statusError, describe_eq_shownBody h]

/-- What an error shows of the body of a refused response. -/
structure ShowsFront (incoming : Incoming) (front : String) (e : ClientError) : Prop where
  shown : ShowsBody incoming (incoming.shownBody front) e
  marked_iff :
    ShowsBody incoming (incoming.markedBody front) e ↔
      incoming.bytes.length ≤ BodyText.limit ∨ incoming.contentLength ≠ none

theorem showsFront_rejection (operation : String) {incoming : Incoming} {front : String}
    (h : incoming.RefusesWith front) :
    ShowsFront incoming front (.inOperation operation (Exchange.rejection incoming)) := by
  have hroot : ShowsBody incoming (incoming.shownBody front)
      (.inOperation operation (Exchange.rejection incoming)) := by
    rw [rejection_eq h]
    rfl
  refine ⟨hroot, ?_⟩
  rw [← incoming.markedBody_eq_iff front, ShowsBody, hroot]
  simp

/-! ## Requests -/

namespace Client

variable {σ α : Type} [Transport σ]

/-- Typed execution meets the error of the exchange before it looks at the body. -/
theorem executeDecoded_rejected {c : Client} {resolver : Resolver} {d : Draft} {request : Request}
    (hbuild : (c.build resolver d).result = .ok request) (transport : σ) (decoder : Decoder α) :
    ∃ asked, (c.build resolver (d.accepting decoder.codec)).result = .ok asked ∧
      ∀ incoming, (Transport.send transport asked).1 = .ok incoming →
        incoming.status.isSuccess = false →
          (c.executeDecoded resolver transport d decoder).result =
              .error (.inOperation (d.accepting decoder.codec).operationName
                (Exchange.rejection incoming)) ∧
            (c.execute resolver transport d decoder).result =
              .error (.inOperation (d.accepting decoder.codec).operationName
                (Exchange.rejection incoming)) := by
  obtain ⟨asked, hasked⟩ := build_accepting hbuild decoder.codec
  refine ⟨asked, hasked, ?_⟩
  intro incoming hsent hstatus
  have hdecoded : (c.executeDecoded resolver transport d decoder).result = .error _ :=
    Run.andThen_error (dispatch_rejected hasked transport hsent hstatus decoder.codec.format) _
  exact ⟨hdecoded, Run.andThen_error hdecoded _⟩

/-- The error of a refused response, whichever way the request was sent, shows the text of the body,
all of it if it fits.  Behind a longer body there are dots if its length was announced, and without
an announcement there are none; so the text is what it should be exactly if the body fits or its
length was announced. -/
theorem error_body_exact {c : Client} {resolver : Resolver} {d : Draft} {request : Request}
    (hbuild : (c.build resolver d).result = .ok request) (transport : σ) (decoder : Decoder α) :
    (∀ incoming front, (Transport.send transport request).1 = .ok incoming →
      incoming.RefusesWith front →
        ∃ e, (c.send resolver transport d).result = .error e ∧ ShowsFront incoming front e) ∧
    ∃ asked, (c.build resolver (d.accepting decoder.codec)).result = .ok asked ∧
      ∀ incoming front, (Transport.send transport asked).1 = .ok incoming →
        incoming.RefusesWith front →
          ∃ e, (c.executeDecoded resolver transport d decoder).result = .error e ∧
            (c.execute resolver transport d decoder).result = .error e ∧
              ShowsFront incoming front e := by
  constructor
  · intro incoming front hsent h
    exact ⟨_, dispatch_rejected hbuild transport hsent h.status .text, showsFront_rejection _ h⟩
  · obtain ⟨asked, hasked, hrejected⟩ := executeDecoded_rejected hbuild transport decoder
    refine ⟨asked, hasked, ?_⟩
    intro incoming front hsent h
    obtain ⟨hdecoded, hexecuted⟩ := hrejected incoming hsent h.status
    exact ⟨_, hdecoded, hexecuted, showsFront_rejection _ h⟩

/-! ## A long answer -/

/-- A service that is busy says so with many letters. -/
def lengthy (contentLength : Option Nat) : Incoming where
  status := ⟨503⟩
  headers := default
  contentLength := contentLength
  body := ⟨[Utf8.encode (BodyText.letters 8193)], none⟩

theorem bytes_lengthy (contentLength : Option Nat) :
    (lengthy contentLength).bytes = List.replicate 8193 0x61 := by
  rw [Incoming.bytes, lengthy, List.flatten_cons, List.flatten_nil, List.append_nil,
    BodyText.encode_letters]

theorem markedBody_lengthy (contentLength : Option Nat) (front : String) :
    (lengthy contentLength).markedBody front = front ++ "..." := by
  rw [Incoming.markedBody, bytes_lengthy, List.length_replicate]
  rfl

theorem refusesWith_lengthy {contentLength : Option Nat} (h : ∀ n ∈ contentLength, n = 8193) :
    (lengthy contentLength).RefusesWith (BodyText.letters BodyText.limit) := by
  refine ⟨rfl, nofun, rfl, ?_, ?_⟩
  · rw [bytes_lengthy, List.length_replicate]
    exact h
  · rw [bytes_lengthy, List.take_replicate, BodyText.encode_letters]
    rfl

/-- The announced length tells that the body goes on. -/
theorem lengthy_marked :
    ∃ e, (sample.send default (⟨[.ok (lengthy (some 8193))]⟩ : Script) plainDraft).result =
        .error e ∧
      e.root = .httpStatus ⟨503⟩ default (BodyText.letters BodyText.limit ++ "...") := by
  obtain ⟨request, hbuild⟩ := build_plainDraft
  have hexact := error_body_exact hbuild (⟨[.ok (lengthy (some 8193))]⟩ : Script) Decoder.json
  obtain ⟨e, he, hshows⟩ := hexact.1 _ _ rfl (refusesWith_lengthy (by decide))
  have hroot := hshows.marked_iff.2 (.inr nofun)
  rw [ShowsBody, markedBody_lengthy] at hroot
  exact ⟨e, he, hroot⟩

/-- Without an announced length nothing tells that the body goes on. -/
theorem lengthy_unmarked :
    (∃ request, (sample.build default plainDraft).result = .ok request) ∧
      (lengthy none).RefusesWith (BodyText.letters BodyText.limit) ∧
      (sample.send default (⟨[.ok (lengthy none)]⟩ : Script) plainDraft).result =
        .error (.inOperation "Op" (.httpStatus ⟨503⟩ default (BodyText.letters BodyText.limit))) ∧
      BodyText.letters BodyText.limit ≠
        (lengthy none).markedBody (BodyText.letters BodyText.limit) := by
  obtain ⟨request, hbuild⟩ := build_plainDraft
  have hrefuses : (lengthy none).RefusesWith (BodyText.letters BodyText.limit) :=
    refusesWith_lengthy nofun
  have hsent := dispatch_rejected hbuild (⟨[.ok (lengthy none)]⟩ : Script) rfl rfl .text
  rw [rejection_eq hrefuses] at hsent
  refine ⟨⟨request, hbuild⟩, hrefuses, hsent, ?_⟩
  rw [markedBody_lengthy]
  exact Incoming.ne_dots _

end Client

end RestTemplates
