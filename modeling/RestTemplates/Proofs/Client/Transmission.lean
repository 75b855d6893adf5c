import RestTemplates.Proofs.Client.Calls
import RestTemplates.Proofs.Client.StatusErrors

/-!
# Transmission — what is sent is what is built

Nothing is sent before a request is complete.  So a draft that cannot be built does not reach the
transport, and a draft that can be built reaches it once, as the request that building gives.  A
body that could not be encoded decides before the template is looked up; every other draft looks its
template up once, whether it is built or sent.

This file defines:

* `Recorder`, a transport that takes down what reaches it,
* `Call.asking`, the calls that typed execution adds,
* `Client.Transmits`, what a run does with the outcome of building,
* `Client.Consults`, what building does with the resolver.

It proves:

* `Client.transmits_dispatch` and `Client.consults_build`,
* `Client.build_result_of_reachable`, what was looked up before does not matter,
* `Client.sent_as_built`, for all ways to send what some calls ask for.
-/

namespace RestTemplates

/-! ## Records of requests -/

/-- A transport with the requests that have reached it. -/
structure Recorder (σ : Type) where
  received : List Request
  carrier : σ

instance {σ : Type} [Transport σ] : Transport (Recorder σ) where
  send recorder request :=
    let sent := Transport.send recorder.carrier request
    (sent.1, ⟨recorder.received ++ [request], sent.2⟩)

/-! ## Typed execution -/

namespace Call

/-- Typed execution asks for the content type of the decoder, if there is one, unless the calls ask
for something themselves or no body comes back. -/
def asking (method : Method) (calls : List Call) (codec : Codec) : List Call :=
  if codec.contentType ≠ "" ∧ method ≠ .head ∧
      ¬ ∃ call ∈ calls, call.givesHeader HeaderName.accept = true then
    [.header HeaderName.accept (Utf8.encode codec.contentType)]
  else []

theorem lastFailure?_asking (method : Method) (calls : List Call) (codec : Codec) :
    lastFailure? (calls ++ asking method calls codec) = lastFailure? calls := by
  -- what is added gives a header and no body
  have hnone : (asking method calls codec).filterMap failure? = [] := by
    rw [asking]
    split <;> rfl
  rw [lastFailure?, List.filterMap_append, hnone, List.append_nil, lastFailure?]

end Call

theorem Draft.asksFor_ofCalls (method : Method) (template : String) (calls : List Call)
    (codec : Codec) :
    (Draft.ofCalls method template calls).asksFor codec = true ↔
      codec.contentType ≠ "" ∧ method ≠ .head ∧
        ¬ ∃ call ∈ calls, call.givesHeader HeaderName.accept = true := by
  have hheaders := contains_headers_ofCalls method template calls HeaderName.accept
  rw [← hheaders]
  simp [asksFor, method_ofCalls, and_assoc]

/-- The draft of typed execution is the draft of some more calls. -/
theorem Draft.accepting_ofCalls (method : Method) (template : String) (calls : List Call)
    (codec : Codec) :
    (Draft.ofCalls method template calls).accepting codec =
      Draft.ofCalls method template (calls ++ Call.asking method calls codec) := by
  have hasks := asksFor_ofCalls method template calls codec
  rw [accepting, Call.asking]
  by_cases h : (ofCalls method template calls).asksFor codec = true
  · -- one more call is one more application
    have hheader : ∀ call, ofCalls method template (calls ++ [call]) =
        (ofCalls method template calls).apply call := by
      intro call
      exact List.foldl_concat apply _ call calls
    rw [if_pos h, if_pos (hasks.1 h), hheader]
  · rw [if_neg h, if_neg fun hall => h (hasks.2 hall), List.append_nil]

/-! ## Look-ups -/

namespace TemplateCache

/-- A look-up is counted once, as a hit or as a miss. -/
theorem lookups_resolve (cache : TemplateCache) (raw : String) :
    (cache.resolve raw).cache.hits + (cache.resolve raw).cache.misses =
      cache.hits + cache.misses + 1 := by
  rcases resolve_cases cache raw with
    ⟨entry, -, hresolve⟩ | ⟨e, -, -, hresolve⟩ | ⟨template, -, -, -, hcache⟩
  · rw [hresolve]
    exact Nat.add_right_comm _ _ _
  · rw [hresolve]
    exact (Nat.add_assoc _ _ _).symm
  · rw [hcache]
    exact (Nat.add_assoc _ _ _).symm

end TemplateCache

/-! ## The transport -/

namespace Client

variable {σ α β : Type}

/-- A run goes on from the outcome of building: an error ends it before the transport, and a request
reaches the transport once and unchanged. -/
structure Transmits [Transport σ] (built : Build Request) (before : Recorder σ)
    (run : Run (Recorder σ) α) : Prop where
  refused : ∀ e, built.result = .error e → run.result = .error e ∧ run.transport = before
  handed : ∀ request, built.result = .ok request →
    run.transport.received = before.received ++ [request] ∧
      run.transport.carrier = (Transport.send before.carrier request).2
  resolver : run.resolver = built.resolver
  lookup : run.lookup = built.lookup

variable [Transport σ]

/-- What is done with the response sends nothing. -/
theorem Transmits.andThen {built : Build Request} {before : Recorder σ} {run : Run (Recorder σ) α}
    (h : Transmits built before run) (f : α → Except ClientError β) :
    Transmits built before (run.andThen f) where
  refused := by
    intro e he
    have hrun := h.refused e he
    exact ⟨Run.andThen_error hrun.1 f, hrun.2⟩
  handed := h.handed
  resolver := h.resolver
  lookup := h.lookup

theorem transmits_dispatch (c : Client) (resolver : Resolver) (before : Recorder σ) (d : Draft)
    (format : BodyFormat) :
    Transmits (c.build resolver d) before (c.dispatch resolver before d format) where
  refused := by
    intro e he
    rw [dispatch_of_error he]
    exact ⟨rfl, rfl⟩
  handed := by
    intro request hrequest
    rw [dispatch_of_ok hrequest]
    exact ⟨rfl, rfl⟩
  resolver := (c.resolver_dispatch resolver before d format).1
  lookup := (c.resolver_dispatch resolver before d format).2

/-! ## The resolver -/

/-- Building either fails for want of a body, with the resolver left alone, or looks the template up
once. -/
structure Consults (resolver : Resolver) (template : String) (failure? : Option EncodingError)
    (built : Build Request) : Prop where
  unread : ∀ failure, failure? = some failure →
    (∃ e, built.result = .error e ∧ e.root = .encoding failure) ∧
      built.resolver = resolver ∧ built.lookup = none
  once : failure? = none →
    built.resolver = { resolver with cache := (resolver.cache.resolve template).cache } ∧
      built.lookup = some (resolver.cache.resolve template).event ∧
      built.resolver.cache.hits + built.resolver.cache.misses =
        resolver.cache.hits + resolver.cache.misses + 1

theorem consults_build (c : Client) (resolver : Resolver) (d : Draft) :
    Consults resolver d.template d.encodingFailure (c.build resolver d) := by
  rw [build]
  cases d.encodingFailure with
  | some found =>
      constructor
      · intro failure hfailure
        have heq : found = failure := Option.some.inj hfailure
        rw [heq]
        exact ⟨⟨_, rfl, rfl⟩, rfl, rfl⟩
      · intro hnone
        cases hnone
  | none =>
      constructor
      · intro failure hfailure
        cases hfailure
      · intro _
        exact ⟨rfl, rfl, resolver.cache.lookups_resolve d.template⟩

theorem consults_ofCalls (c : Client) (resolver : Resolver) (method : Method) (template : String)
    (calls : List Call) :
    Consults resolver template (Call.lastFailure? calls)
      (c.build resolver (.ofCalls method template calls)) := by
  have hbuild := c.consults_build resolver (.ofCalls method template calls)
  rwa [Draft.template_ofCalls, Draft.encodingFailure_ofCalls] at hbuild

/-- What has been looked up before makes no difference to what is built. -/
theorem build_result_of_reachable {resolver later : Resolver} (h : resolver.cache.Reachable)
    (hlater : later.cache.Reachable) (hpolicy : later.policy = resolver.policy) (c : Client)
    (d : Draft) : (c.build later d).result = (c.build resolver d).result := by
  rw [build, build]
  cases d.encodingFailure with
  | some failure =>
      rfl
  | none =>
      have hsame : ∀ policy,
          (later.renderWith d.template d.params d.query policy).result =
            (resolver.renderWith d.template d.params d.query policy).result := by
        intro policy
        rw [Resolver.renderWith_result hlater, Resolver.renderWith_result h]
      simp only [hsame, hpolicy]

/-! ## Sending -/

/-- Whatever some calls ask for, in whatever order: sending it hands the transport what building it
gives, and typed execution hands it what building gives after the calls that it adds.  A body that
could not be encoded, the last one if there are several, is what is wrong then, and nothing is
looked up; otherwise the template is looked up once.  What was looked up before has no influence. -/
theorem sent_as_built (c : Client) (resolver : Resolver) (method : Method) (template : String)
    (calls : List Call) (before : Recorder σ) (decoder : Decoder α) :
    let draft := Draft.ofCalls method template calls
    let built := c.build resolver draft
    let asking := Draft.ofCalls method template (calls ++ Call.asking method calls decoder.codec)
    let builtAsking := c.build resolver asking
    Transmits built before (c.send resolver before draft) ∧
      Transmits builtAsking before (c.executeDecoded resolver before draft decoder) ∧
      Transmits builtAsking before (c.execute resolver before draft decoder) ∧
      Consults resolver template (Call.lastFailure? calls) built ∧
      Consults resolver template (Call.lastFailure? calls) builtAsking ∧
      ∀ later : Resolver, resolver.cache.Reachable → later.cache.Reachable →
        later.policy = resolver.policy →
          (c.build later draft).result = built.result ∧
            (c.build later asking).result = builtAsking.result := by
  intro draft built asking builtAsking
  have hasking : draft.accepting decoder.codec = asking :=
    Draft.accepting_ofCalls method template calls decoder.codec
  have hdecoded :
      Transmits builtAsking before (c.executeDecoded resolver before draft decoder) := by
    rw [executeDecoded, hasking]
    exact (c.transmits_dispatch resolver before asking decoder.codec.format).andThen _
  have hconsults : Consults resolver template (Call.lastFailure? calls) builtAsking := by
    rw [← Call.lastFailure?_asking method calls decoder.codec]
    exact c.consults_ofCalls resolver method template _
  refine ⟨?_, hdecoded, hdecoded.andThen _, ?_, hconsults, ?_⟩
  · exact c.transmits_dispatch resolver before draft .text
  · exact c.consults_ofCalls resolver method template calls
  · intro later h hlater hpolicy
    exact ⟨build_result_of_reachable h hlater hpolicy c draft,
      build_result_of_reachable h hlater hpolicy c asking⟩

/-- A document whose keys are no texts, for which a text is put in later. -/
def keyless : List Call := [.encoded .json (.error ⟨"key must be a string"⟩), .text "none"]

/-- A request is recorded as it is built, and a draft without a usable body leaves the transport as
it was. -/
theorem sample_sent_as_built :
    (∃ request, (sample.build default plainDraft).result = .ok request ∧
      (sample.send default (⟨[], ⟨[.ok (busy none)]⟩⟩ : Recorder Script)
        plainDraft).transport.received = [request]) ∧
    ∃ e, (sample.execute default (⟨[], ⟨[.ok (busy none)]⟩⟩ : Recorder Script)
        (.ofCalls .post "/x" keyless) Decoder.json).result = .error e ∧
      e.root = .encoding ⟨"key must be a string"⟩ ∧
      (sample.execute default (⟨[], ⟨[.ok (busy none)]⟩⟩ : Recorder Script)
        (.ofCalls .post "/x" keyless) Decoder.json).transport = ⟨[], ⟨[.ok (busy none)]⟩⟩ := by
  constructor
  · obtain ⟨request, hbuild⟩ := build_plainDraft
    have hsent := sent_as_built sample default .get "/x" [.operation "Op"]
      (⟨[], ⟨[.ok (busy none)]⟩⟩ : Recorder Script) Decoder.json
    exact ⟨request, hbuild, (hsent.1.handed request hbuild).1⟩
  · have hsent := sent_as_built sample default .post "/x" keyless
      (⟨[], ⟨[.ok (busy none)]⟩⟩ : Recorder Script) Decoder.json
    obtain ⟨-, -, hexecute, -, hconsults, -⟩ := hsent
    obtain ⟨⟨e, he, hroot⟩, -, -⟩ := hconsults.unread _ rfl
    have hrefused := hexecute.refused e he
    exact ⟨e, hrefused.1, hroot, hrefused.2⟩

end Client

end RestTemplates
