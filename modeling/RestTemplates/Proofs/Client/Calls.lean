import RestTemplates.Client.Draft
import RestTemplates.Proofs.MultiMap

/-!
# Calls — what a draft holds after some calls

Each call adds to one part of a draft and leaves the others alone.  So a part holds what the calls
on it add up to, in their order, whatever other calls stand between them.

This file defines:

* `Call.overrides` and `Call.policyOr`, what a list of calls says about the query,
* `Call.bindings`, what it says about the path,
* `Call.lastFailure?` and `Call.givesHeader`, what it says about the body and the headers, and
  `Call.setValue?` and `Call.addedValue?`, which values it gives to a header,
* `Call.lastOperation?` and `Call.lastLevel?`, what it says about errors and diagnostics.

It proves:

* `Draft.foldl_applyAll`, what becomes of one part of a draft,
* `Draft.parts_apply`, what one call does to the parts that make up the target,
* `Draft.query_ofCalls`, `Draft.params_ofCalls`, `Draft.policy_ofCalls` and
  `Draft.template_ofCalls`, what the drafts of some calls hold,
* `Draft.encodingFailure_ofCalls` and `Draft.contains_headers_ofCalls`, which of them have a body
  that could not be encoded, and which have a header,
* `Draft.operationName_ofCalls` and `Draft.level_ofCalls`, what they are called and how much of them
  is reported.
-/

namespace RestTemplates

/-! ## Calls -/

namespace Call

/-- The pair that a call adds to the query. -/
def queryPair? : Call → Option (String × String)
  | .query key value => some (key, value)
  | .queryOption key value => value.map (key, ·)
  | _ => none

/-- The merge policy that a call names. -/
def policy? : Call → Option MergePolicy
  | .policy named => some named
  | _ => none

/-- The pairs that some calls add, in their order under each key. -/
def overrides (calls : List Call) : Query := .ofPairs (calls.filterMap queryPair?)

/-- The last policy that some calls name, or else a given one. -/
def policyOr (calls : List Call) (policy : MergePolicy) : MergePolicy :=
  (calls.filterMap policy?).getLast?.getD policy

/-- The values that a call binds to names. -/
def bindings? : Call → Option (List (String × String))
  | .param name value => some [(name, value)]
  | .params pairs => some pairs
  | _ => none

/-- The values that some calls bind to names, in their order. -/
def bindings (calls : List Call) : List (String × String) := (calls.filterMap bindings?).flatten

/-- Why a call has no body to give. -/
def failure? : Call → Option EncodingError
  | .encoded _ (.error failure) => some failure
  | _ => none

/-- The failure of the last of some calls whose body could not be encoded. -/
def lastFailure? (calls : List Call) : Option EncodingError := (calls.filterMap failure?).getLast?

/-- The name that a call gives to the operation. -/
def operation? : Call → Option String
  | .operation name => some name
  | _ => none

/-- The last name that some calls give to the operation. -/
def lastOperation? (calls : List Call) : Option String := (calls.filterMap operation?).getLast?

/-- The level that a call sets. -/
def level? : Call → Option DebugLevel
  | .level set => some set
  | _ => none

/-- The last level that some calls set. -/
def lastLevel? (calls : List Call) : Option DebugLevel := (calls.filterMap level?).getLast?

/-- Does a call give a header of this name a value? -/
def givesHeader (name : HeaderName) : Call → Bool
  | .header other _ => other = name
  | .appendHeader other _ => other = name
  | _ => false

/-- The value that a call gives a header in place of all that it had. -/
def setValue? (name : HeaderName) : Call → Option HeaderValue
  | .header other value => if name = other then some value else none
  | _ => none

/-- The value that a call adds to a header. -/
def addedValue? (name : HeaderName) : Call → Option HeaderValue
  | .appendHeader other value => if name = other then some value else none
  | _ => none

/-- A call that gives a header no value neither sets it nor adds to it. -/
theorem ungiven_iff {name : HeaderName} {call : Call} :
    call.givesHeader name = false ↔
      call.setValue? name = none ∧ call.addedValue? name = none := by
  cases call with
  | header other value => simp [givesHeader, setValue?, addedValue?, eq_comm]
  | appendHeader other value => simp [givesHeader, setValue?, addedValue?, eq_comm]
  | _ => simp [givesHeader, setValue?, addedValue?]

end Call

/-! ## Drafts -/

namespace Draft

theorem applyAll_cons (d : Draft) (call : Call) (calls : List Call) :
    d.applyAll (call :: calls) = (d.apply call).applyAll calls := rfl

/-- What the calls do to one part of a draft, if each of them either leaves it alone or adds
something to it. -/
theorem foldl_applyAll {β γ : Type} (part : Draft → β) (add : β → γ → β) {given : Call → Option γ}
    (h : ∀ d call, part (apply d call) = (given call).elim (part d) (add (part d)))
    (d : Draft) (calls : List Call) :
    part (d.applyAll calls) = (calls.filterMap given).foldl add (part d) := by
  induction calls generalizing d with
  | nil => rfl
  | cons call calls ih =>
      rw [applyAll_cons, ih, h]
      cases hgiven : given call with
      | none => rw [List.filterMap_cons_none hgiven, Option.elim_none]
      | some value => rw [List.filterMap_cons_some hgiven, Option.elim_some, List.foldl_cons]

/-- What one call does to query, policy and template. -/
theorem parts_apply (d : Draft) (call : Call) :
    (d.apply call).query = call.queryPair?.elim d.query d.query.appendPair ∧
      (d.apply call).policy = call.policy?.elim d.policy some ∧
      (d.apply call).template = d.template := by
  cases call with
  | queryOption key value =>
      cases value <;> exact ⟨rfl, rfl, rfl⟩
  | encoded codec encoding =>
      -- a body that could not be encoded is noted elsewhere than one that could
      cases encoding <;> exact ⟨rfl, rfl, rfl⟩
  | _ =>
      exact ⟨rfl, rfl, rfl⟩

/-- A draft has the query that its calls add up to. -/
theorem query_ofCalls (method : Method) (template : String) (calls : List Call) :
    (ofCalls method template calls).query = Call.overrides calls := by
  have hquery (d : Draft) (call : Call) := (parts_apply d call).1
  rw [ofCalls, foldl_applyAll query MultiMap.appendPair hquery]
  exact MultiMap.foldl_appendPair_empty _

theorem params_apply (d : Draft) (call : Call) :
    (d.apply call).params = call.bindings?.elim d.params d.params.insertAll := by
  cases call with
  | queryOption key value =>
      cases value <;> rfl
  | encoded codec encoding =>
      cases encoding <;> rfl
  | _ =>
      rfl

/-- A draft has the values that its calls bind, one after the other. -/
theorem params_ofCalls (method : Method) (template : String) (calls : List Call) :
    (ofCalls method template calls).params = .ofList (Call.bindings calls) := by
  rw [ofCalls, foldl_applyAll params Dictionary.insertAll params_apply, Dictionary.foldl_insertAll]
  rfl

/-- The last of several values takes the place of all before it. -/
theorem foldl_some {γ : Type} (values : List γ) (first : Option γ) :
    values.foldl (fun _ value => some value) first = values.getLast?.or first := by
  induction values generalizing first with
  | nil => rfl
  | cons value rest ih =>
      rw [List.foldl_cons, ih, List.getLast?_cons]
      cases rest.getLast? <;> rfl

/-- A part that is nothing at first and that calls set holds what was set last. -/
theorem last_ofCalls {γ : Type} (part : Draft → Option γ) {given : Call → Option γ}
    (method : Method) (template : String) (hnew : part (new method template) = none)
    (h : ∀ d call, part (apply d call) = (given call).elim (part d) some) (calls : List Call) :
    part (ofCalls method template calls) = (calls.filterMap given).getLast? := by
  have hfold := foldl_applyAll part (fun _ value => some value) h (new method template) calls
  rw [ofCalls, hfold, foldl_some, hnew, Option.or_none]

/-- A draft has the policy that was named last. -/
theorem policy_ofCalls (method : Method) (template : String) (calls : List Call)
    (policy : MergePolicy) :
    (ofCalls method template calls).policy.getD policy = Call.policyOr calls policy := by
  have hpolicy := last_ofCalls Draft.policy method template rfl
    (fun d call => (parts_apply d call).2.1) calls
  rw [hpolicy, Call.policyOr]

/-- A part that no call touches. -/
theorem applyAll_untouched {β : Type} (part : Draft → β)
    (h : ∀ d call, part (apply d call) = part d) (d : Draft) (calls : List Call) :
    part (d.applyAll calls) = part d := by
  induction calls generalizing d with
  | nil => rfl
  | cons call calls ih => exact (ih (d.apply call)).trans (h d call)

theorem template_ofCalls (method : Method) (template : String) (calls : List Call) :
    (ofCalls method template calls).template = template :=
  applyAll_untouched Draft.template (fun d call => (parts_apply d call).2.2) _ calls

/-- What one call does to body and method. -/
theorem request_parts_apply (d : Draft) (call : Call) :
    (d.apply call).encodingFailure = call.failure?.elim d.encodingFailure some ∧
      (d.apply call).method = d.method := by
  cases call with
  | queryOption key value =>
      cases value <;> exact ⟨rfl, rfl⟩
  | encoded codec encoding =>
      cases encoding <;> exact ⟨rfl, rfl⟩
  | _ =>
      exact ⟨rfl, rfl⟩

theorem method_ofCalls (method : Method) (template : String) (calls : List Call) :
    (ofCalls method template calls).method = method :=
  applyAll_untouched Draft.method (fun d call => (request_parts_apply d call).2) _ calls

/-- A draft holds the failure of the last body that could not be encoded, whatever bodies follow. -/
theorem encodingFailure_ofCalls (method : Method) (template : String) (calls : List Call) :
    (ofCalls method template calls).encodingFailure = Call.lastFailure? calls :=
  last_ofCalls Draft.encodingFailure method template rfl
    (fun d call => (request_parts_apply d call).1) calls

/-- What one call does to the name in errors and to the level of diagnostics. -/
theorem report_parts_apply (d : Draft) (call : Call) :
    (d.apply call).operation = call.operation?.elim d.operation some ∧
      (d.apply call).level = call.level?.elim d.level some := by
  cases call with
  | queryOption key value =>
      cases value <;> exact ⟨rfl, rfl⟩
  | encoded codec encoding =>
      cases encoding <;> exact ⟨rfl, rfl⟩
  | _ =>
      exact ⟨rfl, rfl⟩

/-- A draft is called what the last call says, or else by its template. -/
theorem operationName_ofCalls (method : Method) (template : String) (calls : List Call) :
    (ofCalls method template calls).operationName = (Call.lastOperation? calls).getD template := by
  have hoperation := last_ofCalls Draft.operation method template rfl
    (fun d call => (report_parts_apply d call).1) calls
  rw [operationName, hoperation, template_ofCalls, Call.lastOperation?]

/-- A draft has the level that was set last. -/
theorem level_ofCalls (method : Method) (template : String) (calls : List Call) :
    (ofCalls method template calls).level = Call.lastLevel? calls :=
  last_ofCalls Draft.level method template rfl
    (fun d call => (report_parts_apply d call).2) calls

/-! ## Headers -/

/-- What one call does to a header. -/
theorem values_headers_apply (d : Draft) (call : Call) (name : HeaderName) :
    (d.apply call).headers.values name =
      (call.setValue? name).elim (d.headers.values name ++ (call.addedValue? name).toList)
        ([·]) := by
  have hsame : d.headers.values name = d.headers.values name ++ [] := (List.append_nil _).symm
  cases call with
  | header other value =>
      rw [apply, Headers.set, MultiMap.values_replace, Call.setValue?]
      split
      · rfl
      · exact hsame
  | appendHeader other value =>
      rw [apply, MultiMap.values_append, Call.addedValue?]
      split
      · rfl
      · exact hsame
  | queryOption key value =>
      cases value <;> exact hsame
  | encoded codec encoding =>
      cases encoding <;> exact hsame
  | _ =>
      exact hsame

theorem contains_headers_apply (d : Draft) (call : Call) (name : HeaderName) :
    (d.apply call).headers.contains name = true ↔
      d.headers.contains name = true ∨ call.givesHeader name = true := by
  have hgives : call.givesHeader name = true ↔
      ¬ (call.setValue? name = none ∧ call.addedValue? name = none) := by
    rw [← Call.ungiven_iff, Bool.not_eq_false]
  rw [MultiMap.contains_iff, MultiMap.contains_iff, values_headers_apply, hgives]
  cases call.setValue? name with
  | some value => simp
  | none => cases call.addedValue? name <;> simp

theorem contains_headers_applyAll (d : Draft) (calls : List Call) (name : HeaderName) :
    (d.applyAll calls).headers.contains name = true ↔
      d.headers.contains name = true ∨ ∃ call ∈ calls, call.givesHeader name = true := by
  induction calls generalizing d with
  | nil => simp [applyAll]
  | cons call calls ih =>
      rw [applyAll_cons, ih, contains_headers_apply, or_assoc]
      exact or_congr_right (by simp)

/-- A draft has a header exactly if a call gives it a value. -/
theorem contains_headers_ofCalls (method : Method) (template : String) (calls : List Call)
    (name : HeaderName) :
    (ofCalls method template calls).headers.contains name = true ↔
      ∃ call ∈ calls, call.givesHeader name = true := by
  have hnew : ¬ ((new method template).headers.contains name = true) := by
    rw [MultiMap.contains_iff]
    exact fun hne => hne rfl
  rw [ofCalls, contains_headers_applyAll, or_iff_right hnew]

end Draft

end RestTemplates
