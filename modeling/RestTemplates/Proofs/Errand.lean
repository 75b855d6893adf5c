import RestTemplates.Proofs.Client.Building
import RestTemplates.Session

/-!
# Errands — which actions of a session reach the transport

Three actions send something.  Each of them dispatches one draft and makes an answer of the result;
what it makes of it comes after the exchange and touches nothing.  The other actions never look at
the transport.

This file defines:

* `Errand` and `Action.errand?`, what an action sends and how it goes on,
* `Session.withTransport`, a session on another transport,
* `Session.concluded`, a session that has sent something,
* `Session.handed?` and `Session.handed`, the requests that actions hand to the transport.

It proves:

* `Session.act_of_errand` for the actions that send, and `Session.act_withTransport` for the others,
* `Session.transport_step` and `Session.transport_run`, the transport is sent these requests in
  their order, and is left alone otherwise.
-/

namespace RestTemplates

/-! ## What is sent -/

/-- A draft to send, how the response is shown, and the answer that is made of the result. -/
structure Errand (α : Type) where
  draft : Draft
  responseFormat : BodyFormat
  conclude : Except ClientError (Response Bytes) → Answer α

/-- The result of sending a draft, with the response decoded. -/
def Decoder.readResult {α : Type} (decoder : Decoder α) (d : Draft)
    (result : Except ClientError (Response Bytes)) : Except ClientError (Response α) :=
  result.bind fun r => (decoder.read r).mapError (ClientError.tag d.operationName)

def Action.errand? {α : Type} : Action α → Option (Errand α)
  | .send d => some ⟨d, .text, Answer.of .response⟩
  | .execute d decoder =>
    some ⟨d.accepting decoder.codec, decoder.codec.format,
      fun result => Answer.of .value ((decoder.readResult d result).bind fun r => .ok r.body)⟩
  | .executeDecoded d decoder =>
    some ⟨d.accepting decoder.codec, decoder.codec.format,
      fun result => Answer.of .decoded (decoder.readResult d result)⟩
  | _ => none

namespace Session

variable {σ τ α : Type}

/-! ## Actions -/

/-- The clients and resolvers of a session on another transport. -/
def withTransport (s : Session σ) (transport : τ) : Session τ :=
  ⟨s.handles, s.resolvers, transport⟩

/-- A session after what a client was sent for, and what comes of it. -/
def concluded (s : Session σ) (handle : Handle) (errand : Errand α)
    (run : Run σ (Response Bytes)) : Session σ × Outcome α :=
  ({ s.withResolver handle run.resolver with transport := run.transport },
    ⟨errand.conclude run.result, handle.client.sink.log run.lookup.toList run.diagnostics⟩)

section Actions

variable [Transport σ] [Transport τ] {action : Action α}

/-- An action that sends something is one dispatch. -/
theorem act_of_errand {errand : Errand α} (h : action.errand? = some errand) (s : Session σ)
    (index : Nat) (handle : Handle) :
    s.act index handle action =
      s.concluded handle errand (handle.client.dispatch (s.resolverOf handle) s.transport
        errand.draft errand.responseFormat) := by
  cases action with
  | send d =>
      cases h
      rfl
  | execute d decoder =>
      cases h
      rfl
  | executeDecoded d decoder =>
      cases h
      rfl
  | _ => cases h

/-- Any other action does the same on every transport. -/
theorem act_withTransport (h : action.errand? = none) (s : Session σ) (transport : τ) (index : Nat)
    (handle : Handle) :
    (s.withTransport transport).act index handle action =
      ((s.act index handle action).1.withTransport transport, (s.act index handle action).2) := by
  cases action with
  | send d => cases h
  | execute d decoder => cases h
  | executeDecoded d decoder => cases h
  | share other =>
      -- the client that is joined may not exist
      have hhandles : (s.withTransport transport).handles[other]? = s.handles[other]? := rfl
      rw [act, act, hhandles]
      cases s.handles[other]? <;> rfl
  | _ => rfl

theorem transport_act_of_errand_none (h : action.errand? = none) (s : Session σ) (index : Nat)
    (handle : Handle) : (s.act index handle action).1.transport = s.transport :=
  congrArg (·.1.transport) (act_withTransport h s s.transport index handle)

end Actions

/-! ## Requests -/

/-- The request that an action hands to the transport: the one that building its draft gives, if it
has a draft to send and this can be built. -/
def handed? (s : Session σ) (index : Nat) (action : Action α) : Option Request :=
  s.handles[index]?.bind fun handle => action.errand?.bind fun errand =>
    (handle.client.build (s.resolverOf handle) errand.draft).result.toOption

/-- A request was built by a client of the session for a draft that it was told to send. -/
theorem handed?_eq_some_iff {s : Session σ} {index : Nat} {action : Action α} {request : Request} :
    s.handed? index action = some request ↔
      ∃ handle errand, s.handles[index]? = some handle ∧ action.errand? = some errand ∧
        (handle.client.build (s.resolverOf handle) errand.draft).result = .ok request := by
  simp only [handed?, Option.bind_eq_some_iff]
  constructor
  · rintro ⟨handle, hhandle, errand, herrand, hbuild⟩
    refine ⟨handle, errand, hhandle, herrand, ?_⟩
    cases hresult : (handle.client.build (s.resolverOf handle) errand.draft).result with
    | error e =>
        rw [hresult] at hbuild
        cases hbuild
    | ok built =>
        rw [hresult] at hbuild
        cases hbuild
        rfl
  · rintro ⟨handle, errand, hhandle, herrand, hbuild⟩
    refine ⟨handle, hhandle, errand, herrand, ?_⟩
    rw [hbuild]
    rfl

variable [Transport σ]

/-- The requests that some actions hand to the transport, in their order. -/
def handed (s : Session σ) : List (Nat × Action α) → List Request
  | [] => []
  | (index, action) :: rest =>
    (s.handed? index action).toList ++ (s.step index action).1.handed rest

theorem handed_append (s : Session σ) (before after : List (Nat × Action α)) :
    s.handed (before ++ after) = s.handed before ++ (s.run before).1.handed after := by
  induction before generalizing s with
  | nil => rfl
  | cons told rest ih =>
      rw [List.cons_append, handed, handed, ih, List.append_assoc]
      rfl

/-- The step of a client that has something to send. -/
theorem step_of_errand {s : Session σ} {index : Nat} {handle : Handle} {action : Action α}
    {errand : Errand α} (hhandle : s.handles[index]? = some handle)
    (herrand : action.errand? = some errand) :
    s.step index action =
      s.concluded handle errand (handle.client.dispatch (s.resolverOf handle) s.transport
        errand.draft errand.responseFormat) := by
  rw [step, hhandle]
  exact act_of_errand herrand s index handle

/-- An action sends the transport one request or none. -/
theorem transport_step (s : Session σ) (index : Nat) (action : Action α) :
    (s.step index action).1.transport =
      (s.handed? index action).elim s.transport fun request =>
        (Transport.send s.transport request).2 := by
  rw [step, handed?]
  cases s.handles[index]? with
  | none => rfl
  | some handle =>
      cases herrand : action.errand? with
      | none => exact transport_act_of_errand_none herrand s index handle
      | some errand =>
          have hact := act_of_errand herrand s index handle
          simp only [hact, Option.bind_some]
          cases hbuilt : (handle.client.build (s.resolverOf handle) errand.draft).result with
          | error e =>
              rw [Client.dispatch_of_error hbuilt]
              rfl
          | ok request =>
              rw [Client.dispatch_of_ok hbuilt]
              rfl

/-- A run sends the transport all requests that are handed to it, one after the other. -/
theorem transport_run (s : Session σ) (actions : List (Nat × Action α)) :
    (s.run actions).1.transport =
      (s.handed actions).foldl (fun transport request => (Transport.send transport request).2)
        s.transport := by
  induction actions generalizing s with
  | nil => rfl
  | cons told rest ih =>
      obtain ⟨index, action⟩ := told
      have hrest := ih (s.step index action).1
      rw [transport_step] at hrest
      rw [handed, List.foldl_append, run]
      cases hhanded : s.handed? index action with
      | none =>
          rw [hhanded] at hrest
          exact hrest
      | some request =>
          rw [hhanded] at hrest
          exact hrest

end Session

end RestTemplates
