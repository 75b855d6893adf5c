import Mathlib.Data.List.Sort
import RestTemplates.Proofs.Client.Headers

/-!
# Reordering — calls on different things commute

A call is about one aspect of a request, or, if it binds several names, about several of them.
What a draft holds of an aspect comes from the calls on it alone, in their order; so calls can be
put in any order that keeps the calls on one aspect as they are, and the draft is the same one.  All
that is done with a draft is then the same as well.

This file defines:

* `Aspect` and `Call.concerns`, what a call is about,
* `Call.SameByAspect`, lists of calls that say the same about each aspect, and `Call.Reorders`,
* `Draft.held`, what a draft holds of an aspect.

It proves:

* `Call.Reorders.sameByAspect`, another order that keeps the calls on each aspect in order,
* `Draft.held_apply_of_unconcerned` and `Draft.held_apply_congr`, what one call does to an aspect,
* `Draft.held_applyAll`, what some calls do to it,
* `Draft.ext_held`, a draft is what it holds of all aspects,
* `Client.reordered_calls`, what is built and sent is the same.
-/

namespace RestTemplates

/-! ## Aspects -/

/-- What calls are about. -/
inductive Aspect
  | param (name : String)
  | query (key : String)
  | header (name : HeaderName)
  /-- The body, or why there is none. -/
  | body
  | policy
  | timeout
  | operation
  | level
  | attempt
  deriving DecidableEq

namespace Call

/-- The body that a call sets. -/
def body? : Call → Option DraftBody
  | .encoded codec (.ok bytes) => some ⟨bytes, codec.headerValue?, codec.format⟩
  | .body bytes given => some ⟨bytes, given <|> Codec.binary.headerValue?, .binary⟩
  | _ => none

/-- The timeout that a call sets. -/
def timeout? : Call → Option TimeoutOverride
  | .timeout set => some set
  | _ => none

/-- The attempt that a call counts. -/
def attempt? : Call → Option Nat
  | .attempt count => some count
  | _ => none

/-- Is a call about an aspect?  A query key without a value is about nothing. -/
def concerns (aspect : Aspect) (call : Call) : Bool :=
  match aspect with
  | .param name => (call.bindings?.getD []).any (·.1 = name)
  | .query key => call.queryPair?.any (·.1 = key)
  | .header name => call.givesHeader name
  | .body => call.body?.isSome || call.failure?.isSome
  | .policy => call.policy?.isSome
  | .timeout => call.timeout?.isSome
  | .operation => call.operation?.isSome
  | .level => call.level?.isSome
  | .attempt => call.attempt?.isSome

/-- The calls on each aspect are the same, in the same order. -/
def SameByAspect (calls others : List Call) : Prop :=
  ∀ aspect, calls.filter (concerns aspect) = others.filter (concerns aspect)

/-- Calls in another order: each has a new place, and calls on one aspect stay in their order. -/
def Reorders (calls others : List Call) : Prop :=
  ∃ place : Fin calls.length ≃ Fin others.length,
    (∀ i, others.get (place i) = calls.get i) ∧
    ∀ i j aspect, i < j → (calls.get i).concerns aspect = true →
      (calls.get j).concerns aspect = true → place i < place j

/-- The places of the calls on an aspect. -/
def placesOf (aspect : Aspect) (calls : List Call) : List (Fin calls.length) :=
  (List.finRange calls.length).filter fun i => (calls.get i).concerns aspect

theorem mem_placesOf {aspect : Aspect} {calls : List Call} {i : Fin calls.length} :
    i ∈ placesOf aspect calls ↔ (calls.get i).concerns aspect = true := by
  simp [placesOf]

theorem map_get_placesOf (aspect : Aspect) (calls : List Call) :
    (placesOf aspect calls).map calls.get = calls.filter (concerns aspect) := by
  calc (placesOf aspect calls).map calls.get
      = ((List.finRange calls.length).map calls.get).filter (concerns aspect) := by
        rw [List.filter_map]
        rfl
    _ = calls.filter (concerns aspect) := by rw [List.map_get_finRange]

theorem pairwise_placesOf (aspect : Aspect) (calls : List Call) :
    (placesOf aspect calls).Pairwise (· < ·) :=
  (List.sortedLT_finRange calls.length).pairwise.filter _

/-- The new places of the calls on an aspect are in order, so they are the places of these calls. -/
theorem Reorders.sameByAspect {calls others : List Call} (h : Reorders calls others) :
    SameByAspect calls others := by
  obtain ⟨place, hsame, hkept⟩ := h
  intro aspect
  -- sorted lists of the same places are equal
  have hsorted : ((placesOf aspect calls).map place).Pairwise (· < ·) := by
    refine List.pairwise_map.2 ((pairwise_placesOf aspect calls).imp_of_mem ?_)
    intro i j hi hj hlt
    exact hkept i j aspect hlt (mem_placesOf.1 hi) (mem_placesOf.1 hj)
  have hmem : ∀ j, j ∈ (placesOf aspect calls).map place ↔ j ∈ placesOf aspect others := by
    intro j
    have hj : others.get j = calls.get (place.symm j) := by
      rw [← hsame, Equiv.apply_symm_apply]
    rw [mem_placesOf, hj, ← mem_placesOf, List.mem_map]
    constructor
    · rintro ⟨i, hi, rfl⟩
      rwa [Equiv.symm_apply_apply]
    · intro hi
      exact ⟨_, hi, Equiv.apply_symm_apply place j⟩
  have hplaces : (placesOf aspect calls).map place = placesOf aspect others :=
    hsorted.sortedLT.eq_of_mem_iff (pairwise_placesOf aspect others).sortedLT hmem
  calc calls.filter (concerns aspect)
      = (placesOf aspect calls).map (others.get ∘ place) := by
        rw [← map_get_placesOf]
        exact List.map_congr_left fun i _ => (hsame i).symm
    _ = ((placesOf aspect calls).map place).map others.get := List.map_map.symm
    _ = others.filter (concerns aspect) := by rw [hplaces, map_get_placesOf]

end Call

/-! ## What a draft holds -/

/-- What there is to be held of an aspect. -/
def Aspect.Held : Aspect → Type
  | .param _ => Option String
  | .query _ => List String
  | .header _ => List HeaderValue
  | .body => Option DraftBody × Option EncodingError
  | .policy => Option MergePolicy
  | .timeout => TimeoutOverride
  | .operation => Option String
  | .level => Option DebugLevel
  | .attempt => Nat

namespace Draft

/-- What a draft holds of an aspect. -/
def held (d : Draft) : (aspect : Aspect) → aspect.Held
  | .param name => d.params.find? name
  | .query key => d.query.values key
  | .header name => d.headers.values name
  | .body => (d.body, d.encodingFailure)
  | .policy => d.policy
  | .timeout => d.timeout
  | .operation => d.operation
  | .level => d.level
  | .attempt => d.attempt

/-- A draft is what it holds, for its method and its template. -/
theorem ext_held {d d' : Draft} (hmethod : d.method = d'.method)
    (htemplate : d.template = d'.template) (h : ∀ aspect, d.held aspect = d'.held aspect) :
    d = d' := by
  have hparams : d.params = d'.params := Dictionary.ext_find? fun name => h (.param name)
  have hquery : d.query = d'.query := MultiMap.ext_values fun key => h (.query key)
  have hheaders : d.headers = d'.headers := MultiMap.ext_values fun name => h (.header name)
  have hbody : (d.body, d.encodingFailure) = (d'.body, d'.encodingFailure) := h .body
  have hpolicy : d.policy = d'.policy := h .policy
  have htimeout : d.timeout = d'.timeout := h .timeout
  have hoperation : d.operation = d'.operation := h .operation
  have hlevel : d.level = d'.level := h .level
  have hattempt : d.attempt = d'.attempt := h .attempt
  rw [Prod.mk.injEq] at hbody
  cases d
  cases d'
  simp only at *
  simp only [*, hbody.1, hbody.2]

/-- What one call does to body, timeout and attempt. -/
theorem settings_apply (d : Draft) (call : Call) :
    (d.apply call).body = call.body?.elim d.body some ∧
      (d.apply call).timeout = call.timeout?.getD d.timeout ∧
      (d.apply call).attempt = call.attempt?.getD d.attempt := by
  cases call with
  | queryOption key value =>
      cases value <;> exact ⟨rfl, rfl, rfl⟩
  | encoded codec encoding =>
      cases encoding <;> exact ⟨rfl, rfl, rfl⟩
  | _ =>
      exact ⟨rfl, rfl, rfl⟩

/-- What a call does to an aspect depends on nothing but what is held of this aspect. -/
theorem held_apply_congr {d d' : Draft} {aspect : Aspect} (h : d.held aspect = d'.held aspect)
    (call : Call) : (d.apply call).held aspect = (d'.apply call).held aspect := by
  cases aspect with
  | param name =>
      have hname : d.params.find? name = d'.params.find? name := h
      rw [held, held, params_apply, params_apply]
      cases call.bindings? with
      | none => exact hname
      | some pairs =>
          rw [Option.elim_some, Option.elim_some, Dictionary.find?_insertAll,
            Dictionary.find?_insertAll, hname]
  | query key =>
      have hkey : d.query.values key = d'.query.values key := h
      rw [held, held, (parts_apply d call).1, (parts_apply d' call).1]
      cases call.queryPair? with
      | none => exact hkey
      | some pair =>
          rw [Option.elim_some, Option.elim_some, MultiMap.appendPair, MultiMap.appendPair,
            MultiMap.values_append, MultiMap.values_append, hkey]
  | header name =>
      have hname : d.headers.values name = d'.headers.values name := h
      rw [held, held, values_headers_apply, values_headers_apply, hname]
  | body =>
      have hbody := Prod.mk.inj h
      rw [held, held, (settings_apply d call).1, (settings_apply d' call).1,
        (request_parts_apply d call).1, (request_parts_apply d' call).1, hbody.1, hbody.2]
  | policy =>
      have hpolicy : d.policy = d'.policy := h
      rw [held, held, (parts_apply d call).2.1, (parts_apply d' call).2.1, hpolicy]
  | timeout =>
      have htimeout : d.timeout = d'.timeout := h
      rw [held, held, (settings_apply d call).2.1, (settings_apply d' call).2.1, htimeout]
  | operation =>
      have hoperation : d.operation = d'.operation := h
      rw [held, held, (report_parts_apply d call).1, (report_parts_apply d' call).1, hoperation]
  | level =>
      have hlevel : d.level = d'.level := h
      rw [held, held, (report_parts_apply d call).2, (report_parts_apply d' call).2, hlevel]
  | attempt =>
      have hattempt : d.attempt = d'.attempt := h
      rw [held, held, (settings_apply d call).2.2, (settings_apply d' call).2.2, hattempt]

/-- A call leaves alone what it is not about. -/
theorem held_apply_of_unconcerned {aspect : Aspect} {call : Call}
    (h : call.concerns aspect = false) (d : Draft) :
    (d.apply call).held aspect = d.held aspect := by
  cases aspect with
  | param name =>
      rw [held, held, params_apply]
      cases hpairs : call.bindings? with
      | none => rfl
      | some pairs =>
          have hnone : pairs.filter (·.1 = name) = [] := by
            simpa [Call.concerns, hpairs] using h
          rw [Option.elim_some, Dictionary.find?_insertAll, Dictionary.lastValue?, hnone]
          rfl
  | query key =>
      rw [held, held, (parts_apply d call).1]
      cases hpair : call.queryPair? with
      | none => rfl
      | some pair =>
          have hne : key ≠ pair.1 := by
            simpa [Call.concerns, hpair, eq_comm] using h
          rw [Option.elim_some, MultiMap.appendPair, MultiMap.values_append, if_neg hne]
  | header name =>
      have hungiven : call.setValue? name = none ∧ call.addedValue? name = none :=
        Call.ungiven_iff.1 h
      rw [held, held, values_headers_apply, hungiven.1, hungiven.2]
      exact List.append_nil _
  | body =>
      have hnone : call.body? = none ∧ call.failure? = none := by
        simpa [Call.concerns] using h
      rw [held, held, (settings_apply d call).1, (request_parts_apply d call).1, hnone.1, hnone.2]
      rfl
  | policy =>
      have hnone : call.policy? = none := by
        simpa [Call.concerns] using h
      rw [held, held, (parts_apply d call).2.1, hnone]
      rfl
  | timeout =>
      have hnone : call.timeout? = none := by
        simpa [Call.concerns] using h
      rw [held, held, (settings_apply d call).2.1, hnone]
      rfl
  | operation =>
      have hnone : call.operation? = none := by
        simpa [Call.concerns] using h
      rw [held, held, (report_parts_apply d call).1, hnone]
      rfl
  | level =>
      have hnone : call.level? = none := by
        simpa [Call.concerns] using h
      rw [held, held, (report_parts_apply d call).2, hnone]
      rfl
  | attempt =>
      have hnone : call.attempt? = none := by
        simpa [Call.concerns] using h
      rw [held, held, (settings_apply d call).2.2, hnone]
      rfl

/-- What a draft holds of an aspect comes from the calls on it. -/
theorem held_applyAll {d d' : Draft} {aspect : Aspect} (h : d.held aspect = d'.held aspect)
    (calls : List Call) :
    (d.applyAll calls).held aspect =
      (d'.applyAll (calls.filter (Call.concerns aspect))).held aspect := by
  -- both drafts go on holding the same, though one of them does not get all calls
  induction calls generalizing d d' with
  | nil => exact h
  | cons call calls ih =>
      cases hcall : call.concerns aspect with
      | true =>
          rw [List.filter_cons_of_pos hcall, applyAll_cons, applyAll_cons]
          exact ih (held_apply_congr h call)
      | false =>
          rw [List.filter_cons_of_neg (by simp [hcall]), applyAll_cons]
          exact ih ((held_apply_of_unconcerned hcall d).trans h)

/-- Calls that say the same about each aspect fill in one draft. -/
theorem ofCalls_eq_of_sameByAspect {calls others : List Call} (h : Call.SameByAspect calls others)
    (method : Method) (template : String) :
    ofCalls method template calls = ofCalls method template others := by
  refine ext_held ?_ ?_ ?_
  · rw [method_ofCalls, method_ofCalls]
  · rw [template_ofCalls, template_ofCalls]
  · intro aspect
    have hfiltered (calls : List Call) :
        ((new method template).applyAll calls).held aspect =
          ((new method template).applyAll (calls.filter (Call.concerns aspect))).held aspect :=
      held_applyAll rfl calls
    rw [ofCalls, ofCalls, hfiltered calls, hfiltered others, h aspect]

/-- Several bindings at once are the same as one after the other. -/
theorem apply_params (d : Draft) (pairs : List (String × String)) :
    d.apply (.params pairs) = d.applyAll (pairs.map fun pair => .param pair.1 pair.2) := by
  induction pairs generalizing d with
  | nil => rfl
  | cons pair pairs ih => exact ih (d.apply (.param pair.1 pair.2))

end Draft

namespace Client

/-- Calls that say the same about each aspect make the same request or the same error, and sending
it ends in the same way, with the same reports.  They do so if they are the same calls, with those
on each aspect in the same order.  Several bindings at once are as good as one after the other, and
a query key without a value says nothing. -/
theorem reordered_calls {σ α : Type} [Transport σ] (c : Client) (resolver : Resolver)
    (method : Method) (template : String) (transport : σ) (decoder : Decoder α) :
    (∀ calls others, Call.SameByAspect calls others →
      let draft := Draft.ofCalls method template calls
      let draft' := Draft.ofCalls method template others
      c.build resolver draft = c.build resolver draft' ∧
      c.send resolver transport draft = c.send resolver transport draft' ∧
      c.executeDecoded resolver transport draft decoder =
        c.executeDecoded resolver transport draft' decoder ∧
      c.execute resolver transport draft decoder =
        c.execute resolver transport draft' decoder) ∧
    (∀ calls others, Call.Reorders calls others → Call.SameByAspect calls others) ∧
    (∀ (d : Draft) pairs,
      d.apply (.params pairs) = d.applyAll (pairs.map fun pair => .param pair.1 pair.2)) ∧
    ∀ (d : Draft) key, d.apply (.queryOption key none) = d := by
  refine ⟨?_, fun _ _ h => h.sameByAspect, Draft.apply_params, fun _ _ => rfl⟩
  intro calls others h draft draft'
  have hdraft : draft = draft' := Draft.ofCalls_eq_of_sameByAspect h method template
  rw [hdraft]
  exact ⟨rfl, rfl, rfl, rfl⟩

/-- Two tags with a binding between them. -/
def parted : List Call := [.query "tag" "a", .param "id" "1", .query "tag" "b"]

/-- The tags one behind the other. -/
def joined : List Call := [.param "id" "1", .query "tag" "a", .query "tag" "b"]

theorem parted_calls_reordered :
    ∃ request, (sample.build default (.ofCalls .get "/x" parted)).result = .ok request ∧
      (sample.build default (.ofCalls .get "/x" joined)).result = .ok request := by
  obtain ⟨request, hbuild⟩ : ∃ request,
      (sample.build default (.ofCalls .get "/x" parted)).result = .ok request :=
    build_plain rfl rfl
  have hreorders : Call.Reorders parted joined := by
    have hplaces : ∀ i j : Fin 3, i < j → ¬ (i = 0 ∧ j = 1) →
        Equiv.swap (0 : Fin 3) 1 i < Equiv.swap (0 : Fin 3) 1 j := by
      decide
    have hsame : ∀ i : Fin 3, joined.get (Equiv.swap (0 : Fin 3) 1 i) = parted.get i
      | 0 => rfl
      | 1 => rfl
      | 2 => rfl
    refine ⟨(Equiv.swap 0 1 : Fin 3 ≃ Fin 3), hsame, ?_⟩
    intro i j aspect hlt hi hj
    refine hplaces i j hlt ?_
    -- only these two change places, and nothing is about a key and about a name
    rintro ⟨rfl, rfl⟩
    cases aspect <;> first | cases hi | cases hj
  obtain ⟨hsame, hreordered, -⟩ := reordered_calls sample default .get "/x"
    (⟨[.ok (busy none)]⟩ : Script) Decoder.json
  refine ⟨request, hbuild, ?_⟩
  rw [← (hsame parted joined (hreordered parted joined hreorders)).1]
  exact hbuild

end Client

end RestTemplates
