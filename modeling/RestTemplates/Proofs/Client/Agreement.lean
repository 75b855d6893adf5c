import RestTemplates.Proofs.Client.Calls
import RestTemplates.Proofs.Client.Tagging
import RestTemplates.Session

/-!
# Agreement — the URL of a template and the request for it

A client gives the URL of a template without a request, and it builds requests.  The two take
different ways: one uses the policy of the resolver at once, the other only because no call names
another; one is handed the query, the other collects it from the calls; and only one of them names
an operation in its errors.  They come to the same nevertheless, whatever the resolver has read
before and whoever shares it.

This file defines:

* `Call.Asks`, the calls for some values and pairs, and `Call.plain`, the plainest of them,
* `Client.Matches` and `Answer.Matches`, a URL beside the request for it, or a failure beside the
  same failure with a name in front.

It proves:

* `Client.target_matches_build`, for a client with a resolver,
* `Session.step_target_matches_step_build`, for a client of a session,
* `Client.target_agrees_with_build`, what both say about results, failures, caches and counters.
-/

namespace RestTemplates

open Fallible

/-! ## Calls for some values and pairs -/

namespace Call

/-- Calls that bind some values and add some pairs to the query.  They name no policy, and their
bodies can be encoded; what else they ask for does not matter. -/
structure Asks (calls : List Call) (params : PathParams) (pairs : List (String × String)) :
    Prop where
  params : .ofList (bindings calls) = params
  pairs : calls.filterMap queryPair? = pairs
  policy : ∀ call ∈ calls, call.policy? = none
  encoded : ∀ call ∈ calls, call.failure? = none

/-- The values all at once, and the pairs one after the other. -/
def plain (params : PathParams) (pairs : List (String × String)) : List Call :=
  .params params.toList :: pairs.map fun pair => .query pair.1 pair.2

theorem asks_plain (params : PathParams) (pairs : List (String × String)) :
    Asks (plain params pairs) params pairs := by
  have hbindings : bindings (plain params pairs) = params.toList := by
    simp [plain, bindings, bindings?, List.filterMap_map, Function.comp_def]
  have hpairs : (plain params pairs).filterMap queryPair? = pairs := by
    rw [plain, List.filterMap_cons_none rfl, List.filterMap_map]
    exact List.filterMap_some
  have hplain : ∀ call ∈ plain params pairs, call.policy? = none ∧ call.failure? = none := by
    intro call hcall
    rcases List.mem_cons.1 hcall with rfl | hcall
    · exact ⟨rfl, rfl⟩
    · obtain ⟨pair, -, rfl⟩ := List.mem_map.1 hcall
      exact ⟨rfl, rfl⟩
  exact
    { params := by rw [hbindings, Dictionary.ofList_toList]
      pairs := hpairs
      policy := fun call hcall => (hplain call hcall).1
      encoded := fun call hcall => (hplain call hcall).2 }

namespace Asks

variable {calls : List Call} {params : PathParams} {pairs : List (String × String)}

theorem overrides_eq (h : Asks calls params pairs) : overrides calls = .ofPairs pairs := by
  rw [overrides, h.pairs]

theorem policyOr_eq (h : Asks calls params pairs) (policy : MergePolicy) :
    policyOr calls policy = policy := by
  rw [policyOr, List.filterMap_eq_nil_iff.2 h.policy]
  rfl

theorem lastFailure?_eq_none (h : Asks calls params pairs) : lastFailure? calls = none := by
  rw [lastFailure?, List.filterMap_eq_nil_iff.2 h.encoded]
  rfl

end Asks

end Call

/-! ## One client -/

namespace Client

/-- The URL of a request beside the request, or a failure beside the same failure with the name of
an operation in front. -/
inductive Matches (operation : String) : Except ClientError Url → Except ClientError Request → Prop
  | made (request : Request) : Matches operation (.ok request.url) (.ok request)
  | failed (failure : ResolutionError) :
      Matches operation (.error (.resolution failure))
        (.error (.inOperation operation (.resolution failure)))

/-- A look-up with what a client makes of it, with and without a draft. -/
theorem matches_resolved (c : Client) (d : Draft) (resolved : Except ResolutionError ResolvedPath) :
    Matches d.operationName ((resolved.map c.targetUrl).mapError .resolution)
      ((resolved.map (c.requestOf d)).mapError fun e =>
        (ClientError.resolution e).tag d.operationName) := by
  cases resolved with
  | error failure => exact .failed failure
  | ok path => exact .made (c.requestOf d path)

variable {calls : List Call} {params : PathParams} {pairs : List (String × String)}

/-- Building looks up what is looked up for the URL, and does the same with what it finds. -/
theorem target_matches_build (c : Client) (resolver : Resolver) (method : Method)
    (template : String) (h : Call.Asks calls params pairs) :
    let target := c.target resolver template params (.ofPairs pairs)
    let built := c.build resolver (.ofCalls method template calls)
    target.resolver = built.resolver ∧ target.lookup = built.lookup ∧
      Matches ((Call.lastOperation? calls).getD template) target.result built.result := by
  intro target built
  let d := Draft.ofCalls method template calls
  let looked := resolver.renderWith d.template d.params d.query (d.policy.getD resolver.policy)
  -- no call names a policy, so that of the resolver counts on both ways
  have htarget : target =
      { result := (looked.result.map c.targetUrl).mapError .resolution
        resolver := looked.resolver
        lookup := some looked.event } := by
    have hlooked : resolver.render template params (.ofPairs pairs) = looked := by
      simp only [looked, d]
      rw [Draft.template_ofCalls, Draft.params_ofCalls, Draft.query_ofCalls, Draft.policy_ofCalls,
        h.params, h.overrides_eq, h.policyOr_eq, Resolver.render]
    rw [← hlooked]
    rfl
  have hbuilt : built =
      { result := (looked.result.map (c.requestOf d)).mapError fun e =>
          (ClientError.resolution e).tag d.operationName
        resolver := looked.resolver
        lookup := some looked.event } := by
    have hnone : d.encodingFailure = none := by
      rw [Draft.encodingFailure_ofCalls, h.lastFailure?_eq_none]
    simp only [built, Client.build]
    rw [hnone]
  rw [htarget, hbuilt, ← Draft.operationName_ofCalls method]
  exact ⟨rfl, rfl, matches_resolved c d looked.result⟩

end Client

/-! ## Clients of a session -/

/-- What a client of a session answers, if it is asked for the URL and for the request. -/
inductive Answer.Matches {α : Type} (operation : String) : Answer α → Answer α → Prop
  | made (request : Request) : Matches operation (.url request.url) (.request request)
  | failed (failure : ResolutionError) :
      Matches operation (.failed (.resolution failure))
        (.failed (.inOperation operation (.resolution failure)))
  | noSuchClient : Matches operation .noSuchClient .noSuchClient

theorem Client.Matches.answer {operation : String} {target : Except ClientError Url}
    {built : Except ClientError Request} (h : Client.Matches operation target built) {α : Type} :
    Answer.Matches operation (.of .url target : Answer α) (.of .request built) := by
  cases h with
  | made request => exact .made request
  | failed failure => exact .failed failure

namespace Session

variable {σ : Type} [Transport σ] {calls : List Call} {params : PathParams}
  {pairs : List (String × String)}

/-- The session goes on the same after either action, for its other clients too. -/
theorem step_target_matches_step_build (α : Type) (s : Session σ) (index : Nat) (method : Method)
    (template : String) (h : Call.Asks calls params pairs) :
    let target := s.step index (.target template params (.ofPairs pairs) : Action α)
    let built := s.step index (.build (.ofCalls method template calls) : Action α)
    target.1 = built.1 ∧ target.2.log = built.2.log ∧
      Answer.Matches ((Call.lastOperation? calls).getD template) target.2.answer
        built.2.answer := by
  intro target built
  cases hhandle : s.handles[index]? with
  | none =>
      have htarget : target = (s, ⟨.noSuchClient, .nothing⟩) := by
        simp only [target, step, hhandle]
      have hbuilt : built = (s, ⟨.noSuchClient, .nothing⟩) := by
        simp only [built, step, hhandle]
      rw [htarget, hbuilt]
      exact ⟨rfl, rfl, .noSuchClient⟩
  | some handle =>
      -- nothing of the session is replaced but the resolver, which may be that of other clients too
      obtain ⟨hresolver, hlookup, hmatches⟩ :=
        handle.client.target_matches_build (s.resolverOf handle) method template h
      have htarget : target = s.built handle .url
          (handle.client.target (s.resolverOf handle) template params (.ofPairs pairs)) := by
        simp only [target, step, hhandle, act]
      have hbuilt : built = s.built handle .request
          (handle.client.build (s.resolverOf handle) (.ofCalls method template calls)) := by
        simp only [built, step, hhandle, act]
      rw [htarget, hbuilt, Session.built, Session.built, hresolver, hlookup]
      exact ⟨rfl, rfl, hmatches.answer⟩

end Session

/-! ## What both say -/

namespace Client

namespace Matches

variable {operation : String} {target : Except ClientError Url} {built : Except ClientError Request}

theorem ok_iff (h : Matches operation target built) {url : Url} :
    target = .ok url ↔ ∃ request, built = .ok request ∧ request.url = url := by
  cases h with
  | made request =>
      constructor
      · intro hurl
        exact ⟨request, rfl, Except.ok.inj hurl⟩
      · rintro ⟨other, hother, rfl⟩
        cases hother
        rfl
  | failed failure =>
      constructor
      · intro hurl
        cases hurl
      · rintro ⟨request, hrequest, -⟩
        cases hrequest

theorem error_iff (h : Matches operation target built) {failure : ResolutionError} :
    target = .error (.resolution failure) ↔
      ∃ e, built = .error e ∧ e.root = .resolution failure := by
  cases h with
  | made request => exact ⟨nofun, nofun⟩
  | failed own =>
      constructor
      · intro herror
        cases herror
        exact ⟨_, rfl, rfl⟩
      · rintro ⟨e, he, hroot⟩
        cases he
        cases hroot
        rfl

/-- Nothing but a template that is not resolved makes either of them fail. -/
theorem resolution_of_error (h : Matches operation target built) :
    (∀ e, target = .error e → ∃ failure, e = .resolution failure) ∧
      ∀ e, built = .error e → ∃ failure, e = .inOperation operation (.resolution failure) := by
  cases h with
  | made request => exact ⟨nofun, nofun⟩
  | failed own =>
      refine ⟨?_, ?_⟩
      · rintro e ⟨⟩
        exact ⟨own, rfl⟩
      · rintro e ⟨⟩
        exact ⟨own, rfl⟩

end Matches

/-- Asked for the URL of a template, a client gives the one of the request that it would build, or
fails as building would.  The cache holds and has counted the same after either, in every session
and for all clients that share it. -/
theorem target_agrees_with_build {calls : List Call} {params : PathParams}
    {pairs : List (String × String)} (h : Call.Asks calls params pairs) (method : Method)
    (template : String) :
    let operation := (Call.lastOperation? calls).getD template
    (∀ (c : Client) (resolver : Resolver),
      let target := c.target resolver template params (.ofPairs pairs)
      let built := c.build resolver (.ofCalls method template calls)
      (∀ url, target.result = .ok url ↔
        ∃ request, built.result = .ok request ∧ request.url = url) ∧
      (∀ failure, target.result = .error (.resolution failure) ↔
        ∃ e, built.result = .error e ∧ e.root = .resolution failure) ∧
      (∀ e, target.result = .error e → ∃ failure, e = .resolution failure) ∧
      (∀ e, built.result = .error e →
        ∃ failure, e = .inOperation operation (.resolution failure)) ∧
      target.resolver = built.resolver ∧ target.lookup = built.lookup) ∧
    ∀ (σ : Type) [Transport σ] (α : Type) (s : Session σ) (index : Nat),
      let target := s.step index (.target template params (.ofPairs pairs) : Action α)
      let built := s.step index (.build (.ofCalls method template calls) : Action α)
      target.1 = built.1 ∧ target.2.log = built.2.log ∧
        Answer.Matches operation target.2.answer built.2.answer := by
  intro operation
  refine ⟨?_, ?_⟩
  · intro c resolver target built
    obtain ⟨hresolver, hlookup, hmatches⟩ := c.target_matches_build resolver method template h
    obtain ⟨htarget, hbuilt⟩ := hmatches.resolution_of_error
    exact ⟨fun _ => hmatches.ok_iff, fun _ => hmatches.error_iff, htarget, hbuilt, hresolver,
      hlookup⟩
  · intro σ _ α s index
    exact s.step_target_matches_step_build α index method template h

/-- The calls for one pair: a request is built for the URL that is given, and a template that cannot
be read fails for one reason. -/
theorem plain_calls_agree :
    Call.Asks (Call.plain .empty [("k", "v")]) .empty [("k", "v")] ∧
      (∃ request,
        (sample.build default (.ofCalls .get "/x" (Call.plain .empty [("k", "v")]))).result =
          .ok request ∧
        (sample.target default "/x" .empty (.ofPairs [("k", "v")])).result = .ok request.url) ∧
      ∃ e,
        (sample.build default (.ofCalls .get "/x?%" (Call.plain .empty [("k", "v")]))).result =
          .error e ∧
        e.root = .resolution ⟨"/x?%", .malformedQuery "%" .invalidEscape⟩ := by
  have hasks := Call.asks_plain .empty [("k", "v")]
  refine ⟨hasks, ?_, ?_⟩
  · obtain ⟨request, hbuild⟩ : ∃ request,
        (sample.build default (.ofCalls .get "/x" (Call.plain .empty [("k", "v")]))).result =
          .ok request := build_plain rfl rfl
    have hagree := (target_agrees_with_build hasks .get "/x").1 sample default
    exact ⟨request, hbuild, (hagree.1 request.url).2 ⟨request, hbuild, rfl⟩⟩
  · have hagree := (target_agrees_with_build hasks .get "/x?%").1 sample default
    have hfails : (sample.target default "/x?%" .empty (.ofPairs [("k", "v")])).result =
        .error (.resolution ⟨"/x?%", .malformedQuery "%" .invalidEscape⟩) := by
      decide +kernel
    have hfailure := hagree.2.1 ⟨"/x?%", .malformedQuery "%" .invalidEscape⟩
    exact hfailure.1 hfails

end Client

end RestTemplates
