import RestTemplates.Proofs.Client.Origin
import RestTemplates.Session
import RestTemplates.Transport.Mock

/-!
# Sessions — what every action keeps

The clients of a session share resolvers, change their levels and are cloned, but none of them ever
gets another base URL, and no resolver gets a cache that look-ups do not lead to.  So every request
that reaches the transport, at any time and by any client, stays at the origin of the first client.

This file defines:

* `Session.Kept`, the invariant: bases, caches, and a property of the transport,
* `Session.KeptBySending`, the properties that requests to the origin do not break.

It proves:

* `Session.Kept.step` and `Session.Kept.run`, that actions keep it,
* `Session.run_append` and `Session.outcome_run`, how runs are put together,
* `Session.run_staysAt`, what the clients of a session build,
* `Mock.recordsOrigin_run`, what a mock has recorded after a session.
-/

namespace RestTemplates

namespace Client

variable {σ α : Type} [Transport σ]

theorem reachable_build {c : Client} {resolver : Resolver} (h : resolver.cache.Reachable)
    (d : Draft) : (c.build resolver d).resolver.cache.Reachable := by
  rw [build]
  cases d.encodingFailure with
  | some failure => exact h
  | none => exact h.resolve d.template

/-- The transport is left alone, or it is sent the request that was built. -/
theorem transport_dispatch (c : Client) (resolver : Resolver) (transport : σ) (d : Draft)
    (format : BodyFormat) :
    (c.dispatch resolver transport d format).transport = transport ∨
      ∃ request, (c.build resolver d).result = .ok request ∧
        (c.dispatch resolver transport d format).transport =
          (Transport.send transport request).2 := by
  cases hbuilt : (c.build resolver d).result with
  | error e =>
      rw [dispatch_of_error hbuilt]
      exact .inl rfl
  | ok request =>
      rw [dispatch_of_ok hbuilt]
      exact .inr ⟨request, rfl, rfl⟩

end Client

namespace Session

variable {σ α : Type}

/-! ## The invariant -/

/-- Requests to the origin of a base URL do not break this property of a transport. -/
def KeptBySending [Transport σ] (base : Url) (P : σ → Prop) : Prop :=
  ∀ transport request, P transport → (∃ query, Url.StaysAt base query request.url) →
    P (Transport.send transport request).2

/-- All clients have one base URL, all caches come from look-ups, and the transport has a given
property. -/
structure Kept (base : Url) (P : σ → Prop) (s : Session σ) : Prop where
  made : ∀ h ∈ s.handles, h.client.IsMade ∧ h.client.base = base
  reachable : ∀ r ∈ s.resolvers, r.cache.Reachable
  transport : P s.transport

variable {base : Url} {P : σ → Prop} {s : Session σ}

theorem kept_ofClient {c : Client} (hmade : c.IsMade) {transport : σ} (h : P transport) :
    Kept c.base P (ofClient c transport) := by
  refine ⟨?_, ?_, h⟩
  · rintro handle hhandle
    cases List.mem_singleton.1 hhandle
    exact ⟨hmade, rfl⟩
  · rintro resolver hresolver
    cases List.mem_singleton.1 hresolver
    exact TemplateCache.reachable_empty

namespace Kept

theorem reachable_resolverOf (h : Kept base P s) (handle : Handle) :
    (s.resolverOf handle).cache.Reachable := by
  rw [resolverOf, List.getD_eq_getElem?_getD]
  cases hresolver : s.resolvers[handle.resolver]? with
  | none => exact Client.reachable_default
  | some resolver => exact h.reachable resolver (List.mem_of_getElem? hresolver)

theorem withResolver (h : Kept base P s) (handle : Handle) {resolver : Resolver}
    (hresolver : resolver.cache.Reachable) : Kept base P (s.withResolver handle resolver) := by
  refine ⟨h.made, ?_, h.transport⟩
  intro other hother
  rcases List.mem_or_eq_of_mem_set hother with hother | rfl
  · exact h.reachable other hother
  · exact hresolver

theorem withHandle (h : Kept base P s) (index : Nat) {handle : Handle}
    (hmade : handle.client.IsMade ∧ handle.client.base = base) :
    Kept base P (s.withHandle index handle) := by
  refine ⟨?_, h.reachable, h.transport⟩
  intro other hother
  rcases List.mem_or_eq_of_mem_set hother with hother | rfl
  · exact h.made other hother
  · exact hmade

theorem staysAt_of_build (h : Kept base P s) {handle : Handle} (hhandle : handle ∈ s.handles)
    {d : Draft} {request : Request}
    (hbuild : (handle.client.build (s.resolverOf handle) d).result = .ok request) :
    ∃ query, Url.StaysAt base query request.url := by
  obtain ⟨hmade, rfl⟩ := h.made handle hhandle
  obtain ⟨own, -, hstays⟩ := Client.staysAt_of_build hmade (h.reachable_resolverOf handle) hbuild
  exact ⟨_, hstays⟩

/-- Sending a draft leaves a cache that one more look-up may have changed, and a transport that one
more request may have reached. -/
theorem dispatch [Transport σ] (h : Kept base P s) (hkept : KeptBySending base P) {handle : Handle}
    (hhandle : handle ∈ s.handles) (d : Draft) (format : BodyFormat) :
    let run := handle.client.dispatch (s.resolverOf handle) s.transport d format
    Kept base P { s.withResolver handle run.resolver with transport := run.transport } := by
  intro run
  have hresolver : run.resolver.cache.Reachable := by
    rw [(handle.client.resolver_dispatch _ _ d format).1]
    exact Client.reachable_build (h.reachable_resolverOf handle) d
  have htransport : P run.transport := by
    rcases Client.transport_dispatch handle.client (s.resolverOf handle) s.transport d format with
      hsame | ⟨request, hbuild, hsent⟩
    · rw [hsame]
      exact h.transport
    · rw [hsent]
      exact hkept _ _ h.transport (h.staysAt_of_build hhandle hbuild)
  exact ⟨h.made, (h.withResolver handle hresolver).reachable, htransport⟩

/-- One action of a client. -/
theorem act [Transport σ] (h : Kept base P s) (hkept : KeptBySending base P) (index : Nat)
    {handle : Handle} (hhandle : handle ∈ s.handles) (action : Action α) :
    Kept base P (s.act index handle action).1 := by
  have hmade := h.made handle hhandle
  cases action with
  | clone =>
      refine ⟨?_, h.reachable, h.transport⟩
      intro other hother
      rcases List.mem_append.1 hother with hother | hother
      · exact h.made other hother
      · exact List.mem_singleton.1 hother ▸ hmade
  | setLevel level =>
      exact h.withHandle index ⟨hmade.1.withLevel level, hmade.2⟩
  | share other =>
      -- the resolver of the other client is one of the session already
      rw [Session.act]
      cases s.handles[other]? with
      | none => exact h
      | some source => exact h.withHandle index hmade
  | newResolver policy =>
      have hextended : Kept base P { s with resolvers := s.resolvers ++ [.ofPolicy policy] } := by
        refine ⟨h.made, ?_, h.transport⟩
        intro other hother
        rcases List.mem_append.1 hother with hother | hother
        · exact h.reachable other hother
        · exact List.mem_singleton.1 hother ▸ TemplateCache.reachable_empty
      exact hextended.withHandle index hmade
  | target template params overrides =>
      exact h.withResolver handle ((h.reachable_resolverOf handle).resolve template)
  | build draft =>
      exact h.withResolver handle (Client.reachable_build (h.reachable_resolverOf handle) draft)
  | send draft =>
      exact h.dispatch hkept hhandle draft .text
  -- decoding happens after the exchange and does not touch the session
  | execute draft decoder =>
      exact h.dispatch hkept hhandle (draft.accepting decoder.codec) decoder.codec.format
  | executeDecoded draft decoder =>
      exact h.dispatch hkept hhandle (draft.accepting decoder.codec) decoder.codec.format

theorem step [Transport σ] (h : Kept base P s) (hkept : KeptBySending base P) (index : Nat)
    (action : Action α) : Kept base P (s.step index action).1 := by
  rw [Session.step]
  cases hhandle : s.handles[index]? with
  | none => exact h
  | some handle => exact h.act hkept index (List.mem_of_getElem? hhandle) action

theorem run [Transport σ] (h : Kept base P s) (hkept : KeptBySending base P)
    (actions : List (Nat × Action α)) : Kept base P (s.run actions).1 := by
  induction actions generalizing s with
  | nil => exact h
  | cons first rest ih => exact ih (h.step hkept first.1 first.2)

end Kept

/-! ## Runs -/

/-- Actions after some others are a run of the session that these left. -/
theorem run_append [Transport σ] (s : Session σ) (before after : List (Nat × Action α)) :
    s.run (before ++ after) =
      (((s.run before).1.run after).1, (s.run before).2 ++ ((s.run before).1.run after).2) := by
  induction before generalizing s with
  | nil => rfl
  | cons told rest ih =>
      have hrest := ih (s.step told.1 told.2).1
      rw [List.cons_append, Session.run, hrest]
      rfl

theorem length_run [Transport σ] (s : Session σ) (actions : List (Nat × Action α)) :
    (s.run actions).2.length = actions.length := by
  induction actions generalizing s with
  | nil => rfl
  | cons told rest ih => exact congrArg Nat.succ (ih (s.step told.1 told.2).1)

/-- What comes of an action, in a run of any length, is decided where it is taken. -/
theorem outcome_run [Transport σ] (s : Session σ) (before after : List (Nat × Action α))
    (index : Nat) (action : Action α) :
    (s.run (before ++ (index, action) :: after)).2[before.length]? =
      some ((s.run before).1.step index action).2 := by
  rw [run_append, List.getElem?_append_right (length_run s before).le, length_run, Nat.sub_self]
  rfl

/-- After any actions, every URL and every request of every client of a session stays at the origin
of the client with which the session began. -/
theorem run_staysAt [Transport σ] {c : Client} (hmade : c.IsMade) (transport : σ)
    (actions : List (Nat × Action α)) :
    let s := ((ofClient c transport).run actions).1
    ∀ handle ∈ s.handles,
      (∀ raw params overrides url,
        (handle.client.target (s.resolverOf handle) raw params overrides).result = .ok url →
          ∃ query, Url.StaysAt c.base query url) ∧
      ∀ d request, (handle.client.build (s.resolverOf handle) d).result = .ok request →
        ∃ query, Url.StaysAt c.base query request.url := by
  intro s handle hhandle
  have hstart : Kept c.base (fun _ => True) (ofClient c transport) := kept_ofClient hmade trivial
  have hkept : Kept c.base (fun _ => True) s := hstart.run (fun _ _ _ _ => trivial) actions
  obtain ⟨hclient, hbase⟩ := hkept.made handle hhandle
  refine ⟨?_, ?_⟩
  · intro raw params overrides url hurl
    obtain ⟨own, -, hstays⟩ :=
      Client.staysAt_of_target hclient (hkept.reachable_resolverOf handle) hurl
    exact ⟨_, hbase ▸ hstays⟩
  · intro d request hbuild
    exact hkept.staysAt_of_build hhandle hbuild

end Session

namespace Mock

/-- With or without a reply, a request is recorded after the earlier ones. -/
theorem recorded_send (m : Mock) (request : Request) :
    (Transport.send m request).2.recorded = m.recorded ++ [request] := by
  rcases m with ⟨recorded, replies, chunkSize⟩
  cases replies <;> rfl

/-- What is recorded after some requests is for the origin of a base URL. -/
def RecordsOrigin (base : Url) (before : List Request) (m : Mock) : Prop :=
  ∀ request ∈ m.recorded, request ∈ before ∨ ∃ query, Url.StaysAt base query request.url

theorem keptBySending_recordsOrigin (base : Url) (before : List Request) :
    Session.KeptBySending base (RecordsOrigin base before) := by
  intro m request hm hstays other hother
  rw [recorded_send] at hother
  rcases List.mem_append.1 hother with hother | hother
  · exact hm other hother
  · exact .inr (List.mem_singleton.1 hother ▸ hstays)

/-- In a session, a mock records requests for the origin only, whichever client sends them. -/
theorem recordsOrigin_run {α : Type} {c : Client} (hmade : c.IsMade) (m : Mock)
    (actions : List (Nat × Action α)) :
    ((Session.ofClient c m).run actions).1.transport.RecordsOrigin c.base m.recorded := by
  have hstart : Session.Kept c.base (RecordsOrigin c.base m.recorded) (.ofClient c m) :=
    Session.kept_ofClient hmade fun request hrequest => .inl hrequest
  exact (hstart.run (keptBySending_recordsOrigin c.base m.recorded) actions).transport

end Mock

end RestTemplates
