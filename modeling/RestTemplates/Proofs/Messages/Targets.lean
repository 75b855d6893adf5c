import RestTemplates.Messages
import RestTemplates.Proofs.Client.TargetQuery
import RestTemplates.Proofs.Query.Groups
import RestTemplates.Proofs.Template.Distinct
import RestTemplates.Proofs.Template.RawParts
import RestTemplates.Proofs.Template.Substitution

/-!
# Message targets — where a message call goes

A message call names one thing, a message or a mailbox, and everything else that it says is in its
query.  The name fills a cell of the template by itself, so no name that is accepted changes the
path around it.  The template and the call give no query key in common; so neither the policy of the
call nor that of the client decides anything.

This file defines:

* `MessageResource`, what a call names, and `MessageOperation`, what it does there,
* `MessageCall.arguments`, what a call has in its query, and `MessageCall.target`.

It proves:

* `MessageResource.render_template` and `MessageResource.normalize_of_render`, the path of a name,
* `MessageOperation.parse_template` and `MessageCall.merge_given`, the query of a call,
* `MessageCall.build_draft` and `MessageCall.unresolved_draft`, what becomes of its draft.
-/

namespace RestTemplates

/-! ## Templates -/

namespace PathTemplate

/-- Where no cell can be filled up to a dot segment, the rendered path is left alone. -/
theorem normalize_render {t : PathTemplate} (h : t.HasPlainText)
    (hcells : ∀ cell ∈ t.cells, canMove cell = false) {params : PathParams} {path : String}
    (hrender : t.render params = .ok path) :
    UrlPath.normalize path.toList = path.toList := by
  refine (normalize_render_iff h hrender).2 ?_
  intro cell hcell
  refine Bool.eq_false_iff.2 ?_
  intro hmove
  have haccepts : ∀ name ∈ holes cell, Accepts params name := by
    intro name hname
    exact (render_eq_ok_iff.1 hrender).1 name ((holes_sublist_of_mem_cells hcell).subset hname)
  exact Bool.eq_false_iff.1 (hcells cell hcell) (canMove_of_fill haccepts hmove)

end PathTemplate

/-! ## Paths -/

/-- What a message call names. -/
inductive MessageResource
  | message
  | mailbox
  deriving DecidableEq, Repr

namespace MessageResource

/-- The placeholder that the name is bound to. -/
def placeholder : MessageResource → String
  | .message => "message"
  | .mailbox => "mailbox"

def segments : MessageResource → List Segment
  | .message => [.literal "/apis/v1/messages/", .placeholder "message"]
  | .mailbox => [.literal "/apis/v1/mailboxes/", .placeholder "mailbox", .literal "/messages"]

/-- The path of a resource whose name is written as the given segment. -/
def pathOf : MessageResource → String → String
  | .message, segment => "/apis/v1/messages/" ++ segment
  | .mailbox, segment => "/apis/v1/mailboxes/" ++ segment ++ "/messages"

theorem pathOf_message (segment : String) :
    message.pathOf segment = "/apis/v1/messages/" ++ segment := rfl

theorem pathOf_mailbox (segment : String) :
    mailbox.pathOf segment = "/apis/v1/mailboxes/" ++ segment ++ "/messages" := rfl

/-- The template of the path. -/
def template (r : MessageResource) : PathTemplate := .build r.segments

theorem canonical_segments (r : MessageResource) : PathTemplate.Canonical r.segments := by
  cases r with
  | message => exact ⟨by decide, by decide, by decide, by decide, by decide⟩
  | mailbox => exact ⟨by decide, by decide, by decide, by decide, by decide⟩

theorem placeholders_template (r : MessageResource) :
    r.template.placeholders = [r.placeholder] := by
  cases r with
  | message => rfl
  | mailbox => rfl

theorem fill_segments (r : MessageResource) {written : String → List Char} {segment : String}
    (h : written r.placeholder = segment.toList) :
    PathTemplate.fill written (PathTemplate.symbolsOf r.segments) = (r.pathOf segment).toList := by
  have hend : PathTemplate.fill written (PathTemplate.symbolsOf []) = [] := rfl
  cases r with
  | message =>
      rw [placeholder] at h
      rw [segments, PathTemplate.fill_literal, PathTemplate.fill_placeholder, hend, h,
        pathOf_message, String.toList_append, List.append_nil]
  | mailbox =>
      rw [placeholder] at h
      rw [segments, PathTemplate.fill_literal, PathTemplate.fill_placeholder,
        PathTemplate.fill_literal, hend, h, pathOf_mailbox, String.toList_append,
        String.toList_append, List.append_nil, List.append_assoc]

variable {r : MessageResource} {params : PathParams} {name : String}

/-- The name is written for the placeholder. -/
theorem render_template (hbound : params.find? r.placeholder = some name)
    (hname : PathTemplate.isDotSegment name = false) :
    r.template.render params = .ok (r.pathOf (PathTemplate.encodeValue name)) := by
  refine PathTemplate.render_eq_ok_iff.2 ⟨?_, ?_⟩
  · rw [placeholders_template, List.forall_mem_singleton]
    exact ⟨name, hbound, hname⟩
  · have hwritten : PathTemplate.written params r.placeholder =
        (PathTemplate.encodeValue name).toList := by
      rw [PathTemplate.written, PathTemplate.writtenOf, hbound]
      rfl
    rw [template, PathTemplate.segments_build, r.fill_segments hwritten]

/-- A name that is a dot segment is refused, and so is the whole path. -/
theorem render_template_of_isDotSegment (hbound : params.find? r.placeholder = some name)
    (hname : PathTemplate.isDotSegment name = true) :
    r.template.render params = .error (.invalidParameter r.placeholder .dotSegment) := by
  have hrefuses :
      PathTemplate.Refuses params r.placeholder (.invalidParameter r.placeholder .dotSegment) :=
    .dotSegment hbound (by simpa [PathTemplate.isDotSegment] using hname)
  refine PathTemplate.render_eq_error_iff.2 ?_
  rw [template, PathTemplate.segments_build]
  -- only a literal stands before the placeholder
  cases r with
  | message => exact ⟨[.literal "/apis/v1/messages/"], _, [], rfl, by simp, hrefuses⟩
  | mailbox =>
      exact ⟨[.literal "/apis/v1/mailboxes/"], _, [.literal "/messages"], rfl, by simp, hrefuses⟩

theorem hasPlainText_template (r : MessageResource) : r.template.HasPlainText := by
  have hbound : (Dictionary.ofList [(r.placeholder, "x")]).find? r.placeholder = some "x" :=
    Dictionary.find?_ofList_map (fun _ => "x") (List.mem_singleton_self _)
  have hrender := render_template hbound rfl
  refine PathTemplate.hasPlainText_of_probe ?_ hrender ?_
  · rw [placeholders_template, List.forall_mem_singleton]
    exact hbound
  · cases r <;> decide

/-- URLs leave the rendered path alone. -/
theorem normalize_of_render {path : String} (h : r.template.render params = .ok path) :
    UrlPath.normalize path.toList = path.toList := by
  have hcells : ∀ cell ∈ r.template.cells, PathTemplate.canMove cell = false := by
    cases r with
    | message => decide
    | mailbox => decide
  exact PathTemplate.normalize_render r.hasPlainText_template hcells h

end MessageResource

/-! ## Calls -/

namespace ListOptions

/-- What a listing adds to its query, in the order in which it does. -/
def given (options : ListOptions) : List (String × List String) :=
  [("MaxResults", (options.maxResults.map toString).toList),
    ("NextToken", options.nextToken.toList), ("Filter", options.filters)]

/-- The calls for a listing have to do with its query only. -/
theorem filterMap_calls {γ : Type} {part : Call → Option γ} (options : ListOptions)
    (hoption : ∀ key value, part (.queryOption key value) = none)
    (hpolicy : ∀ policy, part (.policy policy) = none)
    (hquery : ∀ key value, part (.query key value) = none) :
    options.calls.filterMap part = [] := by
  have hfilters : (options.filters.map (Call.query "Filter")).filterMap part = [] := by
    rw [List.filterMap_map, List.filterMap_eq_nil_iff]
    exact fun filter _ => hquery "Filter" filter
  rw [calls]
  split <;> simp [hoption, hpolicy, hfilters]

theorem queryPairs_calls (options : ListOptions) :
    options.calls.filterMap Call.queryPair? = MultiMap.pairsOf options.given := by
  have hoption (key : String) (value : Option String) :
      [Call.queryOption key value].filterMap Call.queryPair? = value.toList.map (key, ·) := by
    cases value <;> rfl
  have hfilters : (if options.filters = [] then []
      else .policy .append :: options.filters.map (Call.query "Filter")).filterMap
        Call.queryPair? = options.filters.map ("Filter", ·) := by
    split
    · next hnone =>
      rw [hnone]
      rfl
    · rw [List.filterMap_cons_none rfl, List.filterMap_map]
      exact congrFun (List.filterMap_eq_map (f := fun filter => ("Filter", filter))) _
  rw [calls, List.filterMap_append, hfilters, ← List.singleton_append, List.filterMap_append,
    hoption, hoption, given, MultiMap.pairsOf_cons, MultiMap.pairsOf_cons, MultiMap.pairsOf_cons]
  simp [MultiMap.pairsOf]

end ListOptions

/-- What a message call does. -/
inductive MessageOperation
  | get
  | list
  | send
  | delete
  | probe
  deriving DecidableEq, Repr

namespace MessageOperation

def label : MessageOperation → String
  | .get => "GetMessage"
  | .list => "ListMessages"
  | .send => "SendMessage"
  | .delete => "DeleteMessage"
  | .probe => "MessageExists"

def method : MessageOperation → Method
  | .get => .get
  | .list => .get
  | .send => .post
  | .delete => .delete
  | .probe => .head

def resource : MessageOperation → MessageResource
  | .get => .message
  | .list => .mailbox
  | .send => .mailbox
  | .delete => .message
  | .probe => .message

def template : MessageOperation → String
  | .get => MessageTemplate.get
  | .list => MessageTemplate.list
  | .send => MessageTemplate.send
  | .delete => MessageTemplate.delete
  | .probe => MessageTemplate.probe

/-- The query of the template. -/
def own : MessageOperation → List (String × List String)
  | .probe => []
  | operation => [("Action", [operation.label]), ("Version", ["2020-01-01"])]

theorem parse_template (operation : MessageOperation) :
    UrlTemplate.parse operation.template =
      .ok ⟨operation.template, operation.resource.template,
        .ofPairs (MultiMap.pairsOf operation.own)⟩ := by
  have hpath : UrlTemplate.pathText operation.template =
      PathTemplate.textOf operation.resource.segments := by
    cases operation <;> decide +kernel
  have hquery : UrlTemplate.queryText operation.template =
      Form.encode (MultiMap.pairsOf operation.own) := by
    cases operation <;> decide +kernel
  refine UrlTemplate.parse_of_parts operation.resource.canonical_segments hpath ?_
  rw [hquery, Query.parse_form_encode]

end MessageOperation

namespace MessageCall

def operation : MessageCall → MessageOperation
  | .get _ => .get
  | .list _ _ => .list
  | .send _ _ => .send
  | .delete _ => .delete
  | .probe _ => .probe

/-- The name of what the call is about. -/
def name : MessageCall → String
  | .get id => id
  | .list mailbox _ => mailbox
  | .send mailbox _ => mailbox
  | .delete id => id
  | .probe id => id

/-- The query that is given for the call. -/
def given : MessageCall → List (String × List String)
  | .list _ options => options.given
  | _ => []

/-- Everything in the query of a call, with the keys in order. -/
def arguments : MessageCall → List (String × List String)
  | .get _ => [("Action", ["GetMessage"]), ("Version", ["2020-01-01"])]
  | .list _ options =>
    [("Action", ["ListMessages"]), ("Filter", options.filters),
      ("MaxResults", (options.maxResults.map toString).toList),
      ("NextToken", options.nextToken.toList), ("Version", ["2020-01-01"])]
  | .send _ _ => [("Action", ["SendMessage"]), ("Version", ["2020-01-01"])]
  | .delete _ => [("Action", ["DeleteMessage"]), ("Version", ["2020-01-01"])]
  | .probe _ => []

/-! ### Drafts -/

theorem method_draft (call : MessageCall) : call.draft.method = call.operation.method := by
  cases call with
  | list mailbox options => exact Draft.method_ofCalls _ _ _
  | _ => rfl

theorem template_draft (call : MessageCall) : call.draft.template = call.operation.template := by
  cases call with
  | list mailbox options => exact Draft.template_ofCalls _ _ _
  | _ => rfl

theorem operationName_draft (call : MessageCall) :
    call.draft.operationName = call.operation.label := by
  cases call with
  | list mailbox options =>
      have hnone : options.calls.filterMap Call.operation? = [] :=
        options.filterMap_calls (fun _ _ => rfl) (fun _ => rfl) fun _ _ => rfl
      rw [draft, Draft.operationName_ofCalls, Call.lastOperation?, List.filterMap_append, hnone]
      rfl
  | _ => rfl

theorem encodingFailure_draft (call : MessageCall) : call.draft.encodingFailure = none := by
  cases call with
  | list mailbox options =>
      have hnone : options.calls.filterMap Call.failure? = [] :=
        options.filterMap_calls (fun _ _ => rfl) (fun _ => rfl) fun _ _ => rfl
      rw [draft, Draft.encodingFailure_ofCalls, Call.lastFailure?, List.filterMap_append, hnone]
      rfl
  | _ => rfl

theorem params_draft (call : MessageCall) :
    call.draft.params = .ofList [(call.operation.resource.placeholder, call.name)] := by
  cases call with
  | list mailbox options =>
      have hnone : options.calls.filterMap Call.bindings? = [] :=
        options.filterMap_calls (fun _ _ => rfl) (fun _ => rfl) fun _ _ => rfl
      rw [draft, Draft.params_ofCalls, Call.bindings, List.filterMap_append, hnone]
      rfl
  | _ => rfl

theorem query_draft (call : MessageCall) :
    call.draft.query = .ofPairs (MultiMap.pairsOf call.given) := by
  cases call with
  | list mailbox options =>
      rw [draft, Draft.query_ofCalls, Call.overrides, List.filterMap_append,
        options.queryPairs_calls]
      rfl
  | _ => rfl

/-! ### Queries -/

theorem sorted_arguments (call : MessageCall) :
    call.arguments.Pairwise fun a b => a.1 < b.1 := by
  refine List.pairwise_map.1 ?_
  cases call with
  | list mailbox options =>
      have hkeys : ["Action", "Filter", "MaxResults", "NextToken", "Version"].Pairwise
          (· < ·) := by
        decide
      exact hkeys
  | probe id => exact .nil
  | _ =>
      have hkeys : ["Action", "Version"].Pairwise (· < ·) := by
        decide
      exact hkeys

/-- A listing gives the filters last, and the template has the version before all that is given. -/
theorem perm_arguments (call : MessageCall) :
    (call.operation.own ++ call.given).Perm call.arguments := by
  cases call with
  | list mailbox options =>
      have hends (a b c d : String × List String) : [a, b, c, d].Perm [d, b, c, a] :=
        (@List.perm_append_comm _ [a] [b, c, d]).trans
          ((@List.perm_append_comm _ [b, c] [d]).append_right [a])
      exact .cons _ (hends _ _ _ _)
  | _ => exact .refl _

/-- Whichever policy is in force, the query of a call is made of its arguments. -/
theorem merge_given (call : MessageCall) (policy : MergePolicy) :
    Query.merge policy (.ofPairs (MultiMap.pairsOf call.operation.own)) call.draft.query =
      .ofPairs (MultiMap.pairsOf call.arguments) := by
  have hnodup : ((call.operation.own ++ call.given).map (·.1)).Nodup := by
    refine (call.perm_arguments.map _).nodup_iff.2 ?_
    refine List.pairwise_map.2 (call.sorted_arguments.imp ?_)
    intro a b hlt heq
    exact String.lt_irrefl b.1 (heq ▸ hlt)
  rw [query_draft, Query.merge_pairsOf policy hnodup,
    MultiMap.ofPairs_pairsOf_of_perm hnodup call.perm_arguments]

/-! ### Requests -/

/-- The path and the query of a call. -/
def target (call : MessageCall) : ResolvedPath where
  path := call.operation.resource.pathOf (PathTemplate.encodeValue call.name)
  query := .ofPairs (MultiMap.pairsOf call.arguments)

theorem find?_params_draft (call : MessageCall) :
    call.draft.params.find? call.operation.resource.placeholder = some call.name := by
  rw [params_draft]
  exact Dictionary.find?_ofList_map (fun _ => call.name) (List.mem_singleton_self _)

variable {call : MessageCall} {resolver : Resolver}

/-- A call whose name is no dot segment is resolved to its target. -/
theorem build_draft (h : resolver.cache.Reachable)
    (hname : PathTemplate.isDotSegment call.name = false) (c : Client) :
    (c.build resolver call.draft).result = .ok (c.requestOf call.draft call.target) := by
  refine (Client.build_eq_ok_iff h).2 ⟨call.encodingFailure_draft, ?_⟩
  rw [template_draft, target, ← call.merge_given]
  exact ⟨_, _, call.operation.parse_template,
    MessageResource.render_template call.find?_params_draft hname, rfl⟩

/-- Its URL is the one of the client with another path and query. -/
theorem targetUrl_target (hname : PathTemplate.isDotSegment call.name = false) (c : Client) :
    c.targetUrl call.target =
      { c.base with path := call.target.path, query := call.target.queryString? } := by
  have hrender := MessageResource.render_template call.find?_params_draft hname
  rw [Client.targetUrl_eq]
  have hpath := MessageResource.normalize_of_render hrender
  rw [target]
  simp only [hpath, String.ofList_toList]

/-- A call whose name is a dot segment is not resolved. -/
theorem unresolved_draft (h : resolver.cache.Reachable)
    (hname : PathTemplate.isDotSegment call.name = true) :
    (resolver.renderWith call.draft.template call.draft.params call.draft.query
        (call.draft.policy.getD resolver.policy)).result =
      .error ⟨call.operation.template,
        .invalidParameter call.operation.resource.placeholder .dotSegment⟩ := by
  rw [template_draft]
  exact Resolver.renderWith_eq_error_of_render h call.operation.parse_template
    (MessageResource.render_template_of_isDotSegment call.find?_params_draft hname) _ _

end MessageCall

end RestTemplates
