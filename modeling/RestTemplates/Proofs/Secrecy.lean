import RestTemplates.Proofs.Client.Secrecy
import RestTemplates.Proofs.Client.TargetPath
import RestTemplates.Session
import RestTemplates.Transport.Mock

/-!
# Secrecy of sessions — no secret reaches a log

Two sessions may be told the same, to clients, drafts and replies that differ in nothing but the
values of secret headers.  Then every step leaves two such sessions again and two equal entries in
the log, so nobody who reads the logs can tell the sessions apart, whatever becomes of their
requests.

This file defines:

* `Script.DifferInSecrets` and `Mock.DifferInSecrets`, replies that differ so,
* `Action.DifferInSecrets` and `Session.DifferInSecrets`, for what clients are told and what they
  have,
* `Session.logs`, all that a session logs.

It proves:

* `Script.ignoresSecrets` and `Mock.ignoresSecrets`, secrets make no difference to transports,
* `Session.DifferInSecrets.act`, one action,
* `Session.DifferInSecrets.logs_eq`, any actions through such a transport,
* `Session.secrets_not_logged`, for prepared replies.
-/

namespace RestTemplates

open Fallible

/-! ## Replies -/

instance : CarriesHeaders MockReply where
  headers := MockReply.headers
  withHeaders reply headers := { reply with headers }

/-- Answers that differ in secrets, and failures that do not differ. -/
def Script.DifferInSecrets (script script' : Script) : Prop :=
  List.Forall₂ (Both RestTemplates.DifferInSecrets) script.answers script'.answers

theorem Script.ignoresSecrets : Transport.IgnoresSecrets Script.DifferInSecrets := by
  rintro ⟨answers⟩ ⟨answers'⟩ request request' hscript -
  have hanswers : List.Forall₂ (Both RestTemplates.DifferInSecrets) answers answers' := hscript
  cases hanswers with
  | nil => exact ⟨.error _, .nil⟩
  | cons hanswer hrest => exact ⟨hanswer, hrest⟩

/-- Replies that differ in secrets; what was recorded does not matter. -/
structure Mock.DifferInSecrets (m m' : Mock) : Prop where
  replies : List.Forall₂ RestTemplates.DifferInSecrets m.replies m'.replies
  chunkSize : m.chunkSize = m'.chunkSize

theorem Mock.ignoresSecrets : Transport.IgnoresSecrets Mock.DifferInSecrets := by
  rintro ⟨recorded, replies, chunkSize⟩ ⟨recorded', replies', chunkSize'⟩ request request' hmock
    hrequest
  obtain ⟨hreplies, hsize⟩ := hmock
  cases hsize
  cases hreplies with
  | nil =>
      -- the failure names method and URL of the request
      obtain ⟨-, -, rfl⟩ := hrequest
      exact ⟨.error _, .nil, rfl⟩
  | cons hreply hrest =>
      obtain ⟨others, hothers, rfl⟩ := hreply
      exact ⟨.ok ⟨others, hothers, rfl⟩, hrest, rfl⟩

/-! ## Lists -/

section Lists

variable {β : Type} {S : β → β → Prop} {list list' : List β}

theorem forall₂_set (h : List.Forall₂ S list list') {b b' : β} (hb : S b b') (index : Nat) :
    List.Forall₂ S (list.set index b) (list'.set index b') := by
  induction h generalizing index with
  | nil => exact .nil
  | cons hhead hrest ih =>
      cases index with
      | zero => exact .cons hb hrest
      | succ index => exact .cons hhead (ih index)

/-- Both lists have a member at an index, or neither has. -/
theorem rel_getElem? (h : List.Forall₂ S list list') (index : Nat) :
    Option.Rel S list[index]? list'[index]? := by
  induction h generalizing index with
  | nil => exact .none
  | cons hhead _ ih =>
      cases index with
      | zero => exact .some hhead
      | succ index => exact ih index

end Lists

/-! ## Actions -/

/-- Two actions that differ at most in the secrets of their drafts. -/
inductive Action.DifferInSecrets {α : Type} : Action α → Action α → Prop
  | clone : Action.DifferInSecrets .clone .clone
  | setLevel (level : DebugLevel) : Action.DifferInSecrets (.setLevel level) (.setLevel level)
  | share (other : Nat) : Action.DifferInSecrets (.share other) (.share other)
  | newResolver (policy : MergePolicy) :
      Action.DifferInSecrets (.newResolver policy) (.newResolver policy)
  | target (template : String) (params : PathParams) (overrides : Query) :
      Action.DifferInSecrets (.target template params overrides)
        (.target template params overrides)
  | build {d d' : Draft} (h : RestTemplates.DifferInSecrets d d') :
      Action.DifferInSecrets (.build d) (.build d')
  | send {d d' : Draft} (h : RestTemplates.DifferInSecrets d d') :
      Action.DifferInSecrets (.send d) (.send d')
  | execute {d d' : Draft} (h : RestTemplates.DifferInSecrets d d') (decoder : Decoder α) :
      Action.DifferInSecrets (.execute d decoder) (.execute d' decoder)
  | executeDecoded {d d' : Draft} (h : RestTemplates.DifferInSecrets d d') (decoder : Decoder α) :
      Action.DifferInSecrets (.executeDecoded d decoder) (.executeDecoded d' decoder)

/-- Actions for the same clients, in the same order. -/
def Action.ListsDifferInSecrets {α : Type} : List (Nat × Action α) → List (Nat × Action α) → Prop :=
  List.Forall₂ fun told told' => told.1 = told'.1 ∧ told.2.DifferInSecrets told'.2

/-! ## Sessions -/

instance : CarriesHeaders Handle where
  headers handle := CarriesHeaders.headers handle.client
  withHeaders handle headers :=
    { handle with client := CarriesHeaders.withHeaders handle.client headers }

namespace Session

variable {σ α β : Type}

/-- Two sessions whose clients and transports differ at most in secrets, and whose clients report to
readers. -/
structure DifferInSecrets (R : σ → σ → Prop) (s s' : Session σ) : Prop where
  handles : List.Forall₂ RestTemplates.DifferInSecrets s.handles s'.handles
  resolvers : s.resolvers = s'.resolvers
  transport : R s.transport s'.transport
  readable : ∀ handle ∈ s.handles, handle.client.sink ≠ .reports

/-- Two outcomes of a step, with sessions that differ at most in secrets, and equal logs. -/
structure StepsAlike (R : σ → σ → Prop) (stepped stepped' : Session σ × Outcome α) : Prop where
  session : stepped.1.DifferInSecrets R stepped'.1
  log : stepped.2.log = stepped'.2.log

namespace DifferInSecrets

variable {R : σ → σ → Prop} {s s' : Session σ} {handle handle' : Handle}

theorem resolverOf_eq (h : s.DifferInSecrets R s')
    (hhandle : RestTemplates.DifferInSecrets handle handle') :
    s.resolverOf handle = s'.resolverOf handle' := by
  obtain ⟨-, -, rfl⟩ := hhandle
  exact congrArg (List.getD · handle.resolver default) h.resolvers

theorem withResolver (h : s.DifferInSecrets R s')
    (hhandle : RestTemplates.DifferInSecrets handle handle') {resolver resolver' : Resolver}
    (hresolver : resolver = resolver') :
    (s.withResolver handle resolver).DifferInSecrets R (s'.withResolver handle' resolver') := by
  obtain ⟨-, -, rfl⟩ := hhandle
  refine ⟨h.handles, ?_, h.transport, h.readable⟩
  exact congrArg₂ (List.set · handle.resolver ·) h.resolvers hresolver

theorem withHandle (h : s.DifferInSecrets R s') (index : Nat)
    (hhandle : RestTemplates.DifferInSecrets handle handle')
    (hsink : handle.client.sink ≠ .reports) :
    (s.withHandle index handle).DifferInSecrets R (s'.withHandle index handle') := by
  refine ⟨forall₂_set h.handles hhandle index, h.resolvers, h.transport, ?_⟩
  intro other hother
  rcases List.mem_or_eq_of_mem_set hother with hother | rfl
  · exact h.readable other hother
  · exact hsink

/-- A step without an exchange. -/
theorem built (h : s.DifferInSecrets R s')
    (hhandle : RestTemplates.DifferInSecrets handle handle') (wrap : β → Answer α)
    {b b' : Build β} (hresolver : b.resolver = b'.resolver) (hlookup : b.lookup = b'.lookup) :
    StepsAlike R (s.built handle wrap b) (s'.built handle' wrap b') where
  session := h.withResolver hhandle hresolver
  log := by
    obtain ⟨-, -, rfl⟩ := hhandle
    exact congrArg (fun lookup => handle.client.sink.log lookup.toList []) hlookup

/-- A step with an exchange. -/
theorem ran (h : s.DifferInSecrets R s')
    (hhandle : RestTemplates.DifferInSecrets handle handle')
    (hsink : handle.client.sink ≠ .reports) (wrap : β → Answer α) {run run' : Run σ β}
    (hrun : run.DifferInSecrets R run') :
    StepsAlike R (s.ran handle wrap run) (s'.ran handle' wrap run') where
  session := by
    have hresolver := h.withResolver hhandle hrun.resolver
    exact ⟨hresolver.handles, hresolver.resolvers, hrun.transport, hresolver.readable⟩
  log := by
    have hlog := Sink.log_eq hsink run.lookup.toList hrun.diagnostics
    obtain ⟨-, -, rfl⟩ := hhandle
    exact hlog.trans (congrArg (fun lookup => handle.client.sink.log lookup.toList run'.diagnostics)
      hrun.lookup)

variable [Transport σ]

/-- One action of a client in both sessions. -/
theorem act (hR : Transport.IgnoresSecrets R) (h : s.DifferInSecrets R s') (index : Nat)
    (hmem : handle ∈ s.handles) (hhandle : RestTemplates.DifferInSecrets handle handle')
    {action action' : Action α} (haction : action.DifferInSecrets action') :
    StepsAlike R (s.act index handle action) (s'.act index handle' action') := by
  have hsink := h.readable handle hmem
  have hresolver := h.resolverOf_eq hhandle
  have hclient : RestTemplates.DifferInSecrets handle.client handle'.client := by
    obtain ⟨others, hothers, rfl⟩ := hhandle
    exact ⟨others, hothers, rfl⟩
  -- nothing is looked up or sent by the first four actions
  have hquiet : ∀ answer answer' : Answer α,
      (quiet handle answer).log = (quiet handle' answer').log := by
    obtain ⟨-, -, rfl⟩ := hhandle
    exact fun _ _ => rfl
  cases haction with
  | clone =>
      refine ⟨⟨List.rel_append h.handles (.cons hhandle .nil), h.resolvers, h.transport, ?_⟩,
        hquiet _ _⟩
      intro other hother
      rcases List.mem_append.1 hother with hother | hother
      · exact h.readable other hother
      · exact List.mem_singleton.1 hother ▸ hsink
  | setLevel level =>
      obtain ⟨others, hothers, rfl⟩ := hhandle
      exact ⟨h.withHandle index ⟨others, hothers, rfl⟩ hsink, hquiet _ _⟩
  | share other =>
      have hother := rel_getElem? h.handles other
      rw [Session.act, Session.act]
      generalize s.handles[other]? = source at hother ⊢
      generalize s'.handles[other]? = source' at hother ⊢
      cases hother with
      | none => exact ⟨h, hquiet _ _⟩
      | some hsource =>
          -- the client that is joined has its resolver at the same place in both sessions
          obtain ⟨others, hothers, rfl⟩ := hhandle
          obtain ⟨-, -, rfl⟩ := hsource
          exact ⟨h.withHandle index ⟨others, hothers, rfl⟩ hsink, hquiet _ _⟩
  | newResolver policy =>
      have hlength := congrArg List.length h.resolvers
      have hextended : Session.DifferInSecrets R
          { s with resolvers := s.resolvers ++ [.ofPolicy policy] }
          { s' with resolvers := s'.resolvers ++ [.ofPolicy policy] } :=
        ⟨h.handles, congrArg (· ++ [Resolver.ofPolicy policy]) h.resolvers, h.transport, h.readable⟩
      obtain ⟨others, hothers, rfl⟩ := hhandle
      refine ⟨hextended.withHandle index ⟨others, hothers, ?_⟩ hsink, hquiet _ _⟩
      rw [hlength]
      rfl
  | target template params overrides =>
      rw [Session.act, Session.act, ← hresolver]
      obtain ⟨others, hothers, rfl⟩ := hhandle
      exact h.built ⟨others, hothers, rfl⟩ Answer.url rfl rfl
  | build hd =>
      have hbuild := Client.differInSecrets_build hclient hd (s.resolverOf handle)
      rw [Session.act, Session.act, ← hresolver]
      exact h.built hhandle Answer.request hbuild.2.1 hbuild.2.2
  | send hd =>
      rw [Session.act, Session.act, ← hresolver]
      exact h.ran hhandle hsink Answer.response
        (Client.differInSecrets_dispatch hR hclient hd h.transport _ .text)
  | execute hd decoder =>
      rw [Session.act, Session.act, ← hresolver]
      exact h.ran hhandle hsink Answer.value
        (Client.differInSecrets_execute hR hclient hd h.transport _ decoder)
  | executeDecoded hd decoder =>
      rw [Session.act, Session.act, ← hresolver]
      exact h.ran hhandle hsink Answer.decoded
        (Client.differInSecrets_executeDecoded hR hclient hd h.transport _ decoder)

theorem step (hR : Transport.IgnoresSecrets R) (h : s.DifferInSecrets R s') (index : Nat)
    {action action' : Action α} (haction : action.DifferInSecrets action') :
    StepsAlike R (s.step index action) (s'.step index action') := by
  have hindex := rel_getElem? h.handles index
  rw [Session.step, Session.step]
  cases hhandle : s.handles[index]? with
  | none =>
      rw [hhandle] at hindex
      generalize s'.handles[index]? = found' at hindex ⊢
      cases hindex
      exact ⟨h, rfl⟩
  | some handle =>
      rw [hhandle] at hindex
      generalize s'.handles[index]? = found' at hindex ⊢
      cases hindex with
      | some hdiffer => exact h.act hR index (List.mem_of_getElem? hhandle) hdiffer haction

end DifferInSecrets

/-- Sessions of one client each. -/
theorem differInSecrets_ofClient {R : σ → σ → Prop} {c c' : Client}
    (hc : RestTemplates.DifferInSecrets c c') (hsink : c.sink ≠ .reports) {t t' : σ}
    (ht : R t t') : (ofClient c t).DifferInSecrets R (ofClient c' t') := by
  obtain ⟨others, hothers, rfl⟩ := hc
  refine ⟨.cons ⟨others, hothers, rfl⟩ .nil, rfl, ht, ?_⟩
  intro handle hhandle
  cases List.mem_singleton.1 hhandle
  exact hsink

variable [Transport σ]

/-- What the sinks of a session take down in the course of some actions. -/
def logs (s : Session σ) (actions : List (Nat × Action α)) : List Log :=
  (s.run actions).2.map (·.log)

/-- Sessions that differ in secrets log the same. -/
theorem DifferInSecrets.logs_eq {R : σ → σ → Prop} {s s' : Session σ}
    (hR : Transport.IgnoresSecrets R) (h : s.DifferInSecrets R s')
    {actions actions' : List (Nat × Action α)}
    (hactions : Action.ListsDifferInSecrets actions actions') :
    s.logs actions = s'.logs actions' := by
  -- every step leaves two sessions that differ in secrets only
  induction hactions generalizing s s' with
  | nil => rfl
  | @cons told told' rest rest' htold hrest ih =>
      obtain ⟨index, action⟩ := told
      obtain ⟨index', action'⟩ := told'
      obtain ⟨rfl, haction⟩ := htold
      have hstep := h.step hR index haction
      exact congrArg₂ List.cons hstep.log (ih hstep.session)

end Session

/-! ## Prepared replies -/

namespace Session

/-- Whatever two sessions are told, with clients at whatever levels, and whether their requests
succeed, are refused, break off or cannot be decoded: if clients, drafts and replies differ in
nothing but the values of secret headers, the logs do not differ. -/
theorem secrets_not_logged (α : Type) :
    (∀ {s s' : Session Script} {actions actions' : List (Nat × Action α)},
      s.DifferInSecrets Script.DifferInSecrets s' →
        Action.ListsDifferInSecrets actions actions' → s.logs actions = s'.logs actions') ∧
    ∀ {s s' : Session Mock} {actions actions' : List (Nat × Action α)},
      s.DifferInSecrets Mock.DifferInSecrets s' →
        Action.ListsDifferInSecrets actions actions' → s.logs actions = s'.logs actions' := by
  constructor
  · intro s s' actions actions' h hactions
    exact h.logs_eq Script.ignoresSecrets hactions
  · intro s s' actions actions' h hactions
    exact h.logs_eq Mock.ignoresSecrets hactions

/-- A client with credentials of its own, which reports all it can. -/
def guarded (secret : String) : Client :=
  { Client.sample with
    config := Client.sample.config.withHeader "authorization" (Utf8.encode secret)
    level := .veryVerbose }

/-- A request with a key. -/
def keyed (secret : String) : Draft := .ofCalls .get "/x" [.header "x-api-key" (Utf8.encode secret)]

/-- A reply with a cookie. -/
def baked (secret : String) : MockReply :=
  (MockReply.okText (Utf8.encode "hi")).withHeader "set-cookie" (Utf8.encode secret)

/-- The same request with other credentials, and a reply with another cookie. -/
theorem guarded_logs_eq :
    (ofClient (guarded "one") (Mock.ofReplies [baked "two"] 4)).logs
        [(0, (Action.send (keyed "three") : Action Unit))] =
      (ofClient (guarded "four") (Mock.ofReplies [baked "five"] 4)).logs
        [(0, (Action.send (keyed "six") : Action Unit))] := by
  have hclient : RestTemplates.DifferInSecrets (guarded "one") (guarded "four") :=
    ⟨_, (Headers.DifferInSecrets.refl _).set fun hno => absurd (by decide) hno, rfl⟩
  have hreply : RestTemplates.DifferInSecrets (baked "two") (baked "five") :=
    ⟨_, (Headers.DifferInSecrets.refl _).set fun hno => absurd (by decide) hno, rfl⟩
  have hdraft : RestTemplates.DifferInSecrets (keyed "three") (keyed "six") :=
    Draft.differInSecrets_ofCalls .get "/x" (.cons (.header (by decide) _ _) .nil)
  have hreplies : Mock.DifferInSecrets (.ofReplies [baked "two"] 4) (.ofReplies [baked "five"] 4) :=
    ⟨.cons hreply .nil, rfl⟩
  have hsession := differInSecrets_ofClient hclient (by decide) hreplies
  exact (secrets_not_logged Unit).2 hsession (.cons ⟨rfl, .send hdraft⟩ .nil)

end Session

end RestTemplates
