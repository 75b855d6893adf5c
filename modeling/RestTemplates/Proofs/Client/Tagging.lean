import RestTemplates.Proofs.Client.Reading
import RestTemplates.Proofs.Client.Transmission

/-!
# Tagging — every error of a request names its operation once

An error that comes out of a request says which operation failed.  Building names the operation, and
so do sending and decoding, but each of them leaves an error alone that names one already.  So the
name stands in front of the cause and nowhere else, whatever stage the error comes from.

This file defines:

* `ClientError.isTagged`, errors with a name in front,
* `ClientError.ownOperation?`, the name that some causes mention themselves,
* `ClientError.NamesOnce`, errors that name an operation exactly once.

It proves:

* `ClientError.tag_tag`, `ClientError.root_tag` and `ClientError.isTagged_root`, the laws of naming,
* `Client.namesOnce_build` and `Client.namesOnce_dispatch`, errors before and after sending,
* `Client.errors_tagged_once`, for all ways to build and send what some calls ask for.
-/

namespace RestTemplates

open Fallible

/-! ## Names in front of errors -/

namespace ClientError

variable {e : ClientError}

/-- Does an error start with the name of an operation? -/
def isTagged : ClientError → Bool
  | .inOperation _ _ => true
  | _ => false

theorem tag_of_not_isTagged (h : e.isTagged = false) (operation : String) :
    e.tag operation = .inOperation operation e := by
  cases e with
  | inOperation named source => cases h
  | _ => rfl

/-- The first name stays. -/
theorem tag_tag (e : ClientError) (first second : String) :
    (e.tag first).tag second = e.tag first := by
  cases e <;> rfl

theorem root_tag (e : ClientError) (operation : String) : (e.tag operation).root = e.root := by
  cases e <;> rfl

/-- However many names there are, the root has none. -/
theorem isTagged_root (e : ClientError) : e.root.isTagged = false := by
  induction e with
  | inOperation named source ih => exact ih
  | _ => rfl

theorem status?_tag (e : ClientError) (operation : String) :
    (e.tag operation).status? = e.status? := by
  rw [status?, status?, root_tag]

theorem resolution?_tag (e : ClientError) (operation : String) :
    (e.tag operation).resolution? = e.resolution? := by
  rw [resolution?, resolution?, root_tag]

/-- The operation that a cause mentions of its own accord. -/
def ownOperation? : ClientError → Option String
  | .headHasNoContent operation => some operation
  | .statusHasNoContent operation _ => some operation
  | _ => none

/-- An error with the name of an operation in front, and no other name behind it. -/
inductive NamesOnce (operation : String) : ClientError → Prop
  | intro {source : ClientError} (untagged : source.isTagged = false)
      (own : ∀ named ∈ source.ownOperation?, named = operation) :
      NamesOnce operation (.inOperation operation source)

theorem namesOnce_tag {operation : String} (huntagged : e.isTagged = false)
    (hown : ∀ named ∈ e.ownOperation?, named = operation) :
    NamesOnce operation (e.tag operation) := by
  rw [tag_of_not_isTagged huntagged]
  exact .intro huntagged hown

/-- A cause that mentions no operation of its own accord. -/
theorem namesOnce_tag_of_none (huntagged : e.isTagged = false) (hown : e.ownOperation? = none)
    (operation : String) : NamesOnce operation (e.tag operation) := by
  refine namesOnce_tag huntagged ?_
  intro named hnamed
  rw [hown] at hnamed
  cases hnamed

end ClientError

/-! ## Stages of a request -/

/-- What goes wrong with an exchange has no name in front and mentions none. -/
theorem Exchange.untagged_of {s : Sending} {answer : Except TransportError Incoming}
    {e : ClientError} (h : (Exchange.of s answer).result = .error e) :
    e.isTagged = false ∧ e.ownOperation? = none := by
  cases harrival : arrival answer with
  | error failure =>
      rw [of_arrival_error harrival] at h
      cases h
      exact ⟨rfl, rfl⟩
  | ok arrived =>
      obtain ⟨incoming, bytes⟩ := arrived
      rw [of_arrival_ok harrival] at h
      have hverdict : verdict s.request incoming bytes = .error e := h
      rw [verdict] at hverdict
      split at hverdict
      · cases hverdict
      · cases hverdict
        exact ⟨rfl, rfl⟩

/-- What goes wrong with decoding has no name in front, and may mention that of the request. -/
theorem Decoder.untagged_read {α : Type} {decoder : Decoder α} {r : Response Bytes}
    {e : ClientError} (h : decoder.read r = .error e) :
    e.isTagged = false ∧ ∀ named ∈ e.ownOperation?, named = r.info.operation := by
  have hmentions : ∀ named ∈ some r.info.operation, named = r.info.operation := by
    intro named hnamed
    exact (Option.some.inj hnamed).symm
  rw [read] at h
  split at h
  · cases h
    exact ⟨rfl, hmentions⟩
  · split at h
    · cases h
      exact ⟨rfl, hmentions⟩
    · split at h
      · cases h
      · cases h
        exact ⟨rfl, nofun⟩

namespace Client

variable {σ α : Type} [Transport σ] {c : Client} {resolver : Resolver} {transport : σ} {d : Draft}
  {format : BodyFormat} {decoder : Decoder α} {e : ClientError}

theorem namesOnce_build (h : (c.build resolver d).result = .error e) :
    e.NamesOnce d.operationName := by
  rw [build] at h
  cases hfailure : d.encodingFailure with
  | some failure =>
      rw [hfailure] at h
      cases h
      exact ClientError.namesOnce_tag_of_none rfl rfl d.operationName
  | none =>
      rw [hfailure] at h
      obtain ⟨failure, -, rfl⟩ := mapError_eq_error_iff.1 h
      exact ClientError.namesOnce_tag_of_none rfl rfl d.operationName

theorem namesOnce_dispatch (h : (c.dispatch resolver transport d format).result = .error e) :
    e.NamesOnce d.operationName := by
  cases hbuilt : (c.build resolver d).result with
  | error failure =>
      -- the error has its name from building
      rw [dispatch_of_error hbuilt] at h
      cases h
      exact namesOnce_build hbuilt
  | ok request =>
      rw [dispatch_of_ok hbuilt] at h
      obtain ⟨failure, hexchange, rfl⟩ := mapError_eq_error_iff.1 h
      obtain ⟨huntagged, hown⟩ := Exchange.untagged_of hexchange
      exact ClientError.namesOnce_tag_of_none huntagged hown d.operationName

/-- A response belongs to the operation of the draft. -/
theorem operation_of_dispatch {r : Response Bytes}
    (h : (c.dispatch resolver transport d format).result = .ok r) :
    r.info.operation = d.operationName := by
  cases hbuilt : (c.build resolver d).result with
  | error failure =>
      rw [dispatch_of_error hbuilt] at h
      cases h
  | ok request =>
      rw [dispatch_of_ok hbuilt] at h
      have hexchange := mapError_eq_ok_iff.1 h
      cases harrival : Exchange.arrival (Transport.send transport request).1 with
      | error failure =>
          rw [Exchange.of_arrival_error harrival] at hexchange
          cases hexchange
      | ok arrived =>
          obtain ⟨incoming, bytes⟩ := arrived
          rw [Exchange.of_arrival_ok harrival] at hexchange
          have hverdict : Exchange.verdict request incoming bytes = .ok r := hexchange
          rw [Exchange.verdict] at hverdict
          split at hverdict
          · cases hverdict
            exact operation_of_build hbuilt
          · cases hverdict

theorem operationName_accepting (d : Draft) (codec : Codec) :
    (d.accepting codec).operationName = d.operationName := by
  rw [Draft.accepting]
  split <;> rfl

theorem namesOnce_executeDecoded
    (h : (c.executeDecoded resolver transport d decoder).result = .error e) :
    e.NamesOnce d.operationName := by
  have hname := operationName_accepting d decoder.codec
  rcases bind_eq_error_iff.1 h with hdispatch | ⟨r, hdispatch, hread⟩
  · rw [← hname]
    exact namesOnce_dispatch hdispatch
  · -- a response that came back but could not be decoded
    obtain ⟨failure, hfailure, rfl⟩ := mapError_eq_error_iff.1 hread
    obtain ⟨huntagged, hown⟩ := Decoder.untagged_read hfailure
    have hoperation : r.info.operation = d.operationName := by
      rw [operation_of_dispatch hdispatch, hname]
    rw [hoperation] at hown
    exact ClientError.namesOnce_tag huntagged hown

theorem namesOnce_execute (h : (c.execute resolver transport d decoder).result = .error e) :
    e.NamesOnce d.operationName := by
  rcases bind_eq_error_iff.1 h with hdecoded | ⟨r, -, hvalue⟩
  · exact namesOnce_executeDecoded hdecoded
  · cases hvalue

/-! ## Calls -/

/-- Whatever some calls ask for, the errors of building, sending and decoding name the operation of
the last call that names one, or else the template, and they name it once.  Naming an error again
changes nothing, and neither its root nor what is read off the root depends on names. -/
theorem errors_tagged_once (c : Client) (resolver : Resolver) (transport : σ) (method : Method)
    (template : String) (calls : List Call) (decoder : Decoder α) :
    let operation := (Call.lastOperation? calls).getD template
    let draft := Draft.ofCalls method template calls
    (∀ e, (c.build resolver draft).result = .error e → e.NamesOnce operation) ∧
      (∀ e, (c.send resolver transport draft).result = .error e → e.NamesOnce operation) ∧
      (∀ e, (c.executeDecoded resolver transport draft decoder).result = .error e →
        e.NamesOnce operation) ∧
      (∀ e, (c.execute resolver transport draft decoder).result = .error e →
        e.NamesOnce operation) ∧
      ∀ (e : ClientError) (first second : String),
        (e.tag first).tag second = e.tag first ∧ (e.tag first).root = e.root ∧
          e.root.isTagged = false ∧ (e.tag first).status? = e.status? ∧
          (e.tag first).resolution? = e.resolution? := by
  intro operation draft
  have hname : draft.operationName = operation := Draft.operationName_ofCalls method template calls
  rw [← hname]
  refine ⟨?_, ?_, ?_, ?_, ?_⟩
  · intro e he
    exact namesOnce_build he
  · intro e he
    exact namesOnce_dispatch he
  · intro e he
    exact namesOnce_executeDecoded he
  · intro e he
    exact namesOnce_execute he
  · intro e first second
    exact ⟨e.tag_tag first second, e.root_tag first, e.isTagged_root, e.status?_tag first,
      e.resolution?_tag first⟩

/-- A request for the head of a resource, which is named twice. -/
def renamed (calls : List Call) : Draft :=
  .ofCalls .head "/x" (.operation "Old" :: .operation "Op" :: calls)

/-- An answer without a body. -/
def bare : Incoming := ⟨⟨200⟩, .empty, none, ⟨[], none⟩⟩

/-- A body that could not be encoded fails alike in all ways to send it, and an answer to HEAD that
is to be decoded names the operation twice, in front and in the text of the cause. -/
theorem renamed_errors_tagged :
    (∃ e, (sample.build default (renamed keyless)).result = .error e ∧
      (sample.send default (⟨[.ok bare]⟩ : Script) (renamed keyless)).result = .error e ∧
      (sample.executeDecoded default (⟨[.ok bare]⟩ : Script) (renamed keyless)
        Decoder.json).result = .error e ∧
      (sample.execute default (⟨[.ok bare]⟩ : Script) (renamed keyless)
        Decoder.json).result = .error e ∧ e.NamesOnce "Op") ∧
    ∃ e, (sample.executeDecoded default (⟨[.ok bare]⟩ : Script) (renamed [])
      Decoder.json).result = .error e ∧ e.root = .headHasNoContent "Op" ∧ e.NamesOnce "Op" := by
  constructor
  · have htagged := errors_tagged_once sample default (⟨[.ok bare]⟩ : Script) .head "/x"
      (.operation "Old" :: .operation "Op" :: keyless) Decoder.json
    exact ⟨_, rfl, rfl, rfl, rfl, htagged.1 _ rfl⟩
  · have htagged := errors_tagged_once sample default (⟨[.ok bare]⟩ : Script) .head "/x"
      [.operation "Old", .operation "Op"] Decoder.json
    obtain ⟨request, hbuild⟩ :
        ∃ request, (sample.build default (renamed [])).result = .ok request := build_plain rfl rfl
    obtain ⟨-, resolved, -, rfl⟩ := build_eq_ok_iff_resolved.1 hbuild
    have hsent := dispatch_of_ok hbuild (⟨[.ok bare]⟩ : Script) .text
    have hdecoded : (sample.executeDecoded default (⟨[.ok bare]⟩ : Script) (renamed [])
        Decoder.json).result = .error (.inOperation "Op" (.headHasNoContent "Op")) := by
      have hasking : (renamed []).accepting Decoder.json.codec = renamed [] := rfl
      rw [executeDecoded, hasking]
      exact congrArg (fun run : Run Script (Response Bytes) => (run.andThen fun r =>
        (Decoder.json.read r).mapError (ClientError.tag "Op")).result) hsent
    exact ⟨_, hdecoded, rfl, htagged.2.2.1 _ hdecoded⟩

end Client

end RestTemplates
