import Mathlib.Algebra.GroupWithZero.Nat
import RestTemplates.Proofs.Client.Reordering

/-!
# Timeouts — which timeout a request has

The last call on the timeout of a request decides: it sets a timeout, or takes it away, or leaves it
to the client.  A client keeps the timeout it is given in whole milliseconds of 64 bits.  So a
timeout that a request has from its client is the given one without its last fraction of a
millisecond, and the greatest that can be kept if the given one is greater; of less than a
millisecond nothing is left.

This file defines:

* `Config.Timed`, settings with the timeout that they were given last,
* `Duration.Kept`, what a client makes of a timeout,
* `Call.lastTimeout?`, what some calls say about the timeout.

It proves:

* `Config.Timed.timeout_eq` and `Duration.kept_ofMilliseconds`, the timeout of a client,
* `Draft.timeout_ofCalls`, the timeout of a draft,
* `Client.timeouts_layered`, the timeout of a request,
* `Client.half_millisecond_vanishes`, a timeout of which nothing is left.
-/

namespace RestTemplates

/-! ## Clients -/

namespace Config

/-- Settings with the timeout that they were given last, if they were given any.  The other setters
leave it alone. -/
inductive Timed : Option Duration → Config → Prop
  | without {config : Config} (untimed : config.timeoutMilliseconds = none) : Timed none config
  | timeout (config : Config) (d : Duration) : Timed (some d) (config.withTimeout d)
  | level {given : Option Duration} {config : Config} (set : DebugLevel)
      (before : Timed given config) : Timed given (config.withDebugLevel set)
  | policy {given : Option Duration} {config : Config} (set : MergePolicy)
      (before : Timed given config) : Timed given (config.withMergePolicy set)
  | header {given : Option Duration} {config : Config} (name : HeaderName) (value : HeaderValue)
      (before : Timed given config) : Timed given (config.withHeader name value)

/-- The greatest number of milliseconds that can be kept. -/
def maxMilliseconds : Nat := 2 ^ 64 - 1

theorem Timed.timeout_eq {given : Option Duration} {config : Config} (h : Timed given config) :
    config.timeout = given.map fun d => .ofMilliseconds (min d.milliseconds maxMilliseconds) := by
  induction h with
  | without huntimed => exact congrArg (Option.map Duration.ofMilliseconds) huntimed
  | timeout config d => rfl
  | level set hbefore ih => exact ih
  | policy set hbefore ih => exact ih
  | header name value hbefore ih => exact ih

end Config

namespace Duration

/-- What a client keeps of a timeout: nothing of a fraction of a millisecond at its end, and no more
than the greatest number of milliseconds. -/
structure Kept (d kept : Duration) : Prop where
  near : d.nanoseconds < 2 ^ 64 * 1000000 →
    kept.nanoseconds ≤ d.nanoseconds ∧ d.nanoseconds < kept.nanoseconds + 1000000
  clamped : 2 ^ 64 * 1000000 ≤ d.nanoseconds → kept = .ofMilliseconds (2 ^ 64 - 1)
  vanishes : kept.nanoseconds = 0 ↔ d.nanoseconds < 1000000

theorem kept_ofMilliseconds (d : Duration) :
    d.Kept (.ofMilliseconds (min d.milliseconds Config.maxMilliseconds)) where
  near := by
    intro hlow
    simp only [ofMilliseconds, milliseconds, Config.maxMilliseconds]
    omega
  clamped := by
    intro hhigh
    have hmin : min d.milliseconds Config.maxMilliseconds = 2 ^ 64 - 1 := by
      simp only [milliseconds, Config.maxMilliseconds]
      omega
    rw [hmin]
  vanishes := by
    simp only [ofMilliseconds, milliseconds, Config.maxMilliseconds]
    omega

end Duration

/-! ## Drafts -/

namespace Call

/-- What the last call on the timeout says, if there is one. -/
def lastTimeout? (calls : List Call) : Option TimeoutOverride :=
  (calls.filterMap timeout?).getLast?

end Call

namespace Draft

/-- A draft says of its timeout what the last call on it says. -/
theorem timeout_ofCalls (method : Method) (template : String) (calls : List Call) :
    (ofCalls method template calls).timeout = (Call.lastTimeout? calls).getD .inherit := by
  have happly (d : Draft) (call : Call) :
      some (d.apply call).timeout = call.timeout?.elim (some d.timeout) some := by
    rw [(settings_apply d call).2.1]
    cases call.timeout? <;> rfl
  have hfold := foldl_applyAll (fun d => some d.timeout) (fun _ set => some set) happly
    (new method template) calls
  -- a draft starts with what the client has, so there is always something to say
  rw [← ofCalls, foldl_some, ← Call.lastTimeout?] at hfold
  cases hlast : Call.lastTimeout? calls with
  | none =>
      rw [hlast] at hfold
      exact Option.some.inj hfold
  | some set =>
      rw [hlast] at hfold
      exact Option.some.inj hfold

end Draft

/-! ## Requests -/

namespace Client

variable {c : Client} {resolver : Resolver} {method : Method} {template : String}
  {calls : List Call} {request : Request}

theorem timeout_of_build
    (h : (c.build resolver (.ofCalls method template calls)).result = .ok request) :
    request.timeout = ((Call.lastTimeout? calls).getD .inherit).apply c.config.timeout := by
  obtain ⟨-, resolved, -, rfl⟩ := build_eq_ok_iff_resolved.1 h
  rw [← Draft.timeout_ofCalls method template]
  rfl

/-- The last call on the timeout decides which one a request has: the one that it sets, or none.
If it leaves the timeout to the client, or if there is no such call, the request has what the client
keeps of the timeout that it was given, and none if it was given none. -/
theorem timeouts_layered {given : Option Duration} (hconfig : Config.Timed given c.config)
    (hbuild : (c.build resolver (.ofCalls method template calls)).result = .ok request) :
    (∀ d, Call.lastTimeout? calls = some (.set d) → request.timeout = some d) ∧
    (Call.lastTimeout? calls = some .clear → request.timeout = none) ∧
    (Call.lastTimeout? calls = some .inherit ∨ Call.lastTimeout? calls = none →
      (given = none → request.timeout = none) ∧
      ∀ d, given = some d → ∃ kept, request.timeout = some kept ∧ d.Kept kept) := by
  have htimeout := timeout_of_build hbuild
  refine ⟨?_, ?_, ?_⟩
  · intro d hset
    rw [htimeout, hset]
    rfl
  · intro hclear
    rw [htimeout, hclear]
    rfl
  · intro hleft
    have hinherited : request.timeout = c.config.timeout := by
      rcases hleft with hinherit | hnone
      · rw [htimeout, hinherit]
        rfl
      · rw [htimeout, hnone]
        rfl
    rw [hinherited, hconfig.timeout_eq]
    refine ⟨?_, ?_⟩
    · rintro rfl
      rfl
    · rintro d rfl
      exact ⟨_, rfl, d.kept_ofMilliseconds⟩

/-- A client that was given a timeout. -/
def timed (d : Duration) : Client := { sample with config := sample.config.withTimeout d }

/-- A timeout that is taken away and then left to the client is that of the client, without the half
of a millisecond that it cannot keep. -/
theorem restored_timeout_layered :
    ∃ request,
      ((timed ⟨1500000⟩).build default
        (.ofCalls .get "/x" [.timeout .clear, .timeout .inherit])).result = .ok request ∧
      Config.Timed (some ⟨1500000⟩) (timed ⟨1500000⟩).config ∧
      ∃ kept, request.timeout = some kept ∧ 500000 < kept.nanoseconds ∧
        kept.nanoseconds ≤ 1500000 := by
  obtain ⟨request, hbuild⟩ : ∃ request, ((timed ⟨1500000⟩).build default
      (.ofCalls .get "/x" [.timeout .clear, .timeout .inherit])).result = .ok request :=
    build_plain rfl rfl
  have hconfig : Config.Timed (some ⟨1500000⟩) (timed ⟨1500000⟩).config := .timeout _ _
  obtain ⟨-, -, hleft⟩ := timeouts_layered hconfig hbuild
  obtain ⟨kept, hkept, hclose⟩ := (hleft (.inl rfl)).2 _ rfl
  obtain ⟨hle, hlt⟩ := hclose.near (by decide)
  have hlow : 500000 < kept.nanoseconds := by
    simp only at hlt
    omega
  exact ⟨request, hbuild, hconfig, kept, hkept, hlow, hle⟩

/-- Of a timeout of half a millisecond nothing is left, although it is not zero. -/
theorem half_millisecond_vanishes :
    Config.Timed (some ⟨500000⟩) (timed ⟨500000⟩).config ∧
      ∃ request, ((timed ⟨500000⟩).build default plainDraft).result = .ok request ∧
        request.timeout = some ⟨0⟩ ∧
        ¬ ∀ kept, request.timeout = some kept → kept.nanoseconds = 0 →
          (⟨500000⟩ : Duration).nanoseconds = 0 := by
  obtain ⟨request, hbuild⟩ : ∃ request,
      ((timed ⟨500000⟩).build default plainDraft).result = .ok request := build_plain rfl rfl
  have htimeout : request.timeout = some ⟨0⟩ := timeout_of_build hbuild
  refine ⟨.timeout _ _, request, hbuild, htimeout, ?_⟩
  intro hzero
  exact absurd (hzero ⟨0⟩ htimeout rfl) (by decide)

end Client

end RestTemplates
