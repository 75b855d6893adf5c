import RestTemplates.Proofs.Client.Transmission
import RestTemplates.Proofs.Http.Secrets

/-!
# Headers — which values the headers of a request have

Three parties have a say in a header: the calls for the request, the client with its defaults, and
the body with its content type.  The first of them that gives any value decides, name by name, and
the others are not heard.  Typed execution comes last; it asks for a content type in place of the
client's default, but not in place of what the calls ask for.

This file defines:

* `Call.Gives`, the values that some calls give a header,
* `Call.lastBodyType?`, the content type of the body that was set last,
* `Client.Layers`, what the three layers come to.

It proves:

* `Draft.gives_iff` and `Draft.bodyType_ofCalls`, what the draft of some calls holds,
* `Client.values_headersOf`, how its headers are laid over the defaults,
* `Client.headers_layered`, the headers of what is built and of what is sent.
-/

namespace RestTemplates

/-! ## What calls say about a header -/

namespace Call

/-- A header has the value that it was last set to, if it was set, and all that were added since. -/
inductive Gives (name : HeaderName) : List Call → List HeaderValue → Prop
  | added {calls : List Call} (unset : ∀ call ∈ calls, call.setValue? name = none) :
      Gives name calls (calls.filterMap (addedValue? name))
  | set (before : List Call) (value : HeaderValue) {after : List Call}
      (unset : ∀ call ∈ after, call.setValue? name = none) :
      Gives name (before ++ .header name value :: after)
        (value :: after.filterMap (addedValue? name))

theorem eq_header_of_setValue? {name : HeaderName} {call : Call} {value : HeaderValue}
    (h : call.setValue? name = some value) : call = .header name value := by
  cases call with
  | header other given =>
      rw [setValue?, Option.ite_none_right_eq_some] at h
      obtain ⟨rfl, hvalue⟩ := h
      rw [Option.some.inj hvalue]
  | _ => cases h

theorem exists_gives (name : HeaderName) (calls : List Call) :
    ∃ values, Gives name calls values := by
  induction calls with
  | nil => exact ⟨_, .added nofun⟩
  | cons call calls ih =>
      obtain ⟨values, hvalues⟩ := ih
      cases hvalues with
      | set before value hunset => exact ⟨_, .set (call :: before) value hunset⟩
      | added hunset =>
          -- nothing behind this call sets the header, so it is up to this one
          cases hcall : call.setValue? name with
          | none => exact ⟨_, .added (List.forall_mem_cons.2 ⟨hcall, hunset⟩)⟩
          | some value =>
              rw [eq_header_of_setValue? hcall]
              exact ⟨_, .set [] value hunset⟩

/-- The content type that a call gives the body: that of its codec, unless that is empty, or the one
that comes with the bytes, or else that of mere bytes. -/
def bodyType? : Call → Option (Option HeaderValue)
  | .encoded codec (.ok _) =>
    some (if codec.contentType = "" then none else some (Utf8.encode codec.contentType))
  | .body _ given => some (some (given.getD (Utf8.encode "application/octet-stream")))
  | _ => none

/-- The content type of the body that was set last. -/
def lastBodyType? (calls : List Call) : Option HeaderValue :=
  (calls.filterMap bodyType?).getLast?.join

end Call

/-! ## What drafts hold -/

namespace Draft

/-- Calls that do not set a header add to what it has. -/
theorem values_headers_applyAll {calls : List Call} {name : HeaderName}
    (h : ∀ call ∈ calls, call.setValue? name = none) (d : Draft) :
    (d.applyAll calls).headers.values name =
      d.headers.values name ++ calls.filterMap (Call.addedValue? name) := by
  induction calls generalizing d with
  | nil => exact (List.append_nil _).symm
  | cons call calls ih =>
      have hparts := List.forall_mem_cons.1 h
      rw [applyAll_cons, ih hparts.2, values_headers_apply, hparts.1, Option.elim_none,
        List.append_assoc]
      cases hadded : call.addedValue? name with
      | none => rw [List.filterMap_cons_none hadded, Option.toList_none, List.nil_append]
      | some value =>
          rw [List.filterMap_cons_some hadded]
          rfl

/-- A draft has the values that its calls give. -/
theorem gives_iff {method : Method} {template : String} {calls : List Call} {name : HeaderName}
    {values : List HeaderValue} :
    Call.Gives name calls values ↔
      (ofCalls method template calls).headers.values name = values := by
  have hgives {values : List HeaderValue} (h : Call.Gives name calls values) :
      (ofCalls method template calls).headers.values name = values := by
    cases h with
    | added hunset => exact values_headers_applyAll hunset _
    | @set before value after hunset =>
        have hsplit : ofCalls method template (before ++ .header name value :: after) =
            ((ofCalls method template before).apply (.header name value)).applyAll after :=
          List.foldl_append
        have hset : (Call.header name value).setValue? name = some value := if_pos rfl
        rw [hsplit, values_headers_applyAll hunset, values_headers_apply, hset]
        rfl
  refine ⟨hgives, ?_⟩
  -- some values are given, and these are what the draft has
  rintro rfl
  obtain ⟨values, hvalues⟩ := Call.exists_gives name calls
  exact (hgives hvalues).symm ▸ hvalues

/-- A draft has the content type of the body that was set last. -/
theorem bodyType_ofCalls (method : Method) (template : String) (calls : List Call) :
    (ofCalls method template calls).body.bind (·.contentType) = Call.lastBodyType? calls := by
  have happly (d : Draft) (call : Call) :
      (d.apply call).body.map (·.contentType) =
        call.bodyType?.elim (d.body.map (·.contentType)) some := by
    cases call with
    | queryOption key value =>
        cases value <;> rfl
    | encoded codec encoding =>
        cases encoding <;> rfl
    | body bytes given =>
        cases given <;> rfl
    | _ =>
        rfl
  have hlast := last_ofCalls (fun d => d.body.map (·.contentType)) method template rfl happly calls
  rw [Call.lastBodyType?, ← hlast]
  cases (ofCalls method template calls).body <;> rfl

end Draft

/-! ## Layers -/

/-- A value for a name that has none. -/
theorem Headers.values_withDefault (headers : Headers) (name : HeaderName) (value : HeaderValue)
    (asked : HeaderName) :
    (if headers.contains name then headers else Headers.set headers name value).values asked =
      if asked = name ∧ headers.values name = [] then [value] else headers.values asked := by
  by_cases hvalues : headers.values name = []
  · have hcontains : ¬ headers.contains name = true := by
      rw [MultiMap.contains_iff]
      exact not_not_intro hvalues
    rw [if_neg hcontains, Headers.set, MultiMap.values_replace]
    simp [hvalues]
  · rw [if_pos (MultiMap.contains_iff.2 hvalues), if_neg fun h => hvalues h.2]

namespace Client

/-- The values of a header: what the calls give it, or else what the client has for it, or else,
for the content type, what the body says. -/
theorem values_headersOf (c : Client) (d : Draft) (name : HeaderName) :
    (c.headersOf d).values name =
      if d.headers.values name ≠ [] then d.headers.values name
      else if c.config.defaultHeaders.values name ≠ [] then c.config.defaultHeaders.values name
      else if name = HeaderName.contentType then (d.body.bind (·.contentType)).toList
      else [] := by
  have hlaid := Headers.values_laidOver d.headers c.config.defaultHeaders
  rw [headersOf]
  cases htype : d.body.bind (·.contentType) with
  | none =>
      simp only [hlaid]
      grind
  | some value =>
      simp only [Headers.values_withDefault, hlaid]
      grind

/-- What the values of a header are after some calls. -/
inductive Layers (c : Client) (calls : List Call) : HeaderName → List HeaderValue → Prop
  /-- A header that the calls give a value has what they give, and nothing of the defaults. -/
  | own {name : HeaderName} {values : List HeaderValue}
      (asked : ∃ call ∈ calls, call.givesHeader name = true)
      (gives : Call.Gives name calls values) : Layers c calls name values
  /-- Any other header has the values of the client. -/
  | preset {name : HeaderName} (unasked : ∀ call ∈ calls, call.givesHeader name = false)
      (stated : name = HeaderName.contentType → c.config.defaultHeaders.values name ≠ []) :
      Layers c calls name (c.config.defaultHeaders.values name)
  /-- A content type for which the client has no value either is that of the body. -/
  | implied (unasked : ∀ call ∈ calls, call.givesHeader HeaderName.contentType = false)
      (unstated : c.config.defaultHeaders.values HeaderName.contentType = []) :
      Layers c calls HeaderName.contentType (Call.lastBodyType? calls).toList

/-- A header that no call gives a value has none from the calls. -/
theorem values_ofCalls_eq_nil_iff {method : Method} {template : String} {calls : List Call}
    {name : HeaderName} :
    (Draft.ofCalls method template calls).headers.values name = [] ↔
      ∀ call ∈ calls, call.givesHeader name = false := by
  have hcontains := Draft.contains_headers_ofCalls method template calls name
  rw [MultiMap.contains_iff] at hcontains
  simpa using not_congr hcontains

theorem values_of_layers {c : Client} {method : Method} {template : String} {calls : List Call}
    {name : HeaderName} {values : List HeaderValue} (h : c.Layers calls name values) :
    (c.headersOf (.ofCalls method template calls)).values name = values := by
  rw [values_headersOf, Draft.bodyType_ofCalls]
  cases h with
  | own hasked hgives =>
      have hown : (Draft.ofCalls method template calls).headers.values name ≠ [] := by
        rw [← MultiMap.contains_iff]
        exact (Draft.contains_headers_ofCalls method template calls name).2 hasked
      rw [if_pos hown]
      exact Draft.gives_iff.1 hgives
  | preset hunasked hstated =>
      -- without any default this is not the content type, and nothing is left to say
      rw [if_neg (not_not_intro (values_ofCalls_eq_nil_iff.2 hunasked))]
      by_cases hdefault : c.config.defaultHeaders.values name = []
      · have hother : name ≠ HeaderName.contentType := fun heq => hstated heq hdefault
        rw [if_neg (not_not_intro hdefault), if_neg hother, hdefault]
      · rw [if_pos hdefault]
  | implied hunasked hunstated =>
      rw [if_neg (not_not_intro (values_ofCalls_eq_nil_iff.2 hunasked)),
        if_neg (not_not_intro hunstated), if_pos rfl]

theorem exists_layers (c : Client) (calls : List Call) (name : HeaderName) :
    ∃ values, c.Layers calls name values := by
  by_cases hasked : ∃ call ∈ calls, call.givesHeader name = true
  · obtain ⟨values, hvalues⟩ := Call.exists_gives name calls
    exact ⟨values, .own hasked hvalues⟩
  · have hunasked : ∀ call ∈ calls, call.givesHeader name = false := by
      simpa using hasked
    by_cases hstated : name = HeaderName.contentType → c.config.defaultHeaders.values name ≠ []
    · exact ⟨_, .preset hunasked hstated⟩
    · obtain ⟨rfl, hunstated⟩ := not_forall.1 hstated
      exact ⟨_, .implied hunasked (not_not.1 hunstated)⟩

/-- The headers of a draft are the layers of its calls. -/
theorem layers_iff {c : Client} {method : Method} {template : String} {calls : List Call}
    {name : HeaderName} {values : List HeaderValue} :
    c.Layers calls name values ↔
      (c.headersOf (.ofCalls method template calls)).values name = values := by
  refine ⟨values_of_layers, ?_⟩
  rintro rfl
  obtain ⟨values, hlayers⟩ := c.exists_layers calls name
  exact (values_of_layers hlayers).symm ▸ hlayers

/-- A header that is set last has just that value, and the others have what they had. -/
theorem values_headersOf_set (c : Client) (d : Draft) (name : HeaderName) (value : HeaderValue)
    (asked : HeaderName) :
    (c.headersOf (d.apply (.header name value))).values asked =
      if asked = name then [value] else (c.headersOf d).values asked := by
  have hbody : (d.apply (.header name value)).body = d.body := rfl
  rw [values_headersOf, values_headersOf, Draft.values_headers_apply, hbody]
  by_cases hname : asked = name
  · simp [Call.setValue?, hname]
  · simp [Call.setValue?, Call.addedValue?, hname]

/-! ## Typed execution -/

/-- What is built for typed execution has the same headers, but for the content type that it asks
for. -/
theorem build_accepting_exact {c : Client} {resolver : Resolver} {d : Draft} {request : Request}
    (h : (c.build resolver d).result = .ok request) (codec : Codec) :
    ∃ asked, (c.build resolver (d.accepting codec)).result = .ok asked ∧
      asked = { request with headers := asked.headers } ∧
      ∀ name, asked.headers.values name =
        if name = HeaderName.accept ∧ d.asksFor codec = true then [Utf8.encode codec.contentType]
        else request.headers.values name := by
  rw [Draft.accepting]
  by_cases hasks : d.asksFor codec = true
  · obtain ⟨hencoding, resolved, hresolved, rfl⟩ := build_eq_ok_iff_resolved.1 h
    rw [if_pos hasks]
    -- the header makes no difference to the template, so the path is resolved as it was
    refine ⟨_, build_eq_ok_iff_resolved.2 ⟨hencoding, resolved, hresolved, rfl⟩, rfl, ?_⟩
    intro name
    simp only [hasks, and_true]
    exact c.values_headersOf_set d HeaderName.accept _ name
  · rw [if_neg hasks]
    refine ⟨request, h, rfl, ?_⟩
    intro name
    rw [if_neg fun hboth => hasks hboth.2]

/-- Each header of a request has what its layers come to.  The request is sent as it is; for typed
execution it asks for the content type of the decoder, in place of what the client would ask for,
if there is such a type, the method is not HEAD and no call asks for anything. -/
theorem headers_layered {σ α : Type} [Transport σ] {c : Client} {resolver : Resolver}
    {method : Method} {template : String} {calls : List Call} {request : Request}
    (hbuild : (c.build resolver (.ofCalls method template calls)).result = .ok request)
    (before : Recorder σ) (decoder : Decoder α) :
    let draft := Draft.ofCalls method template calls
    let type := decoder.codec.contentType
    (∀ name values, request.headers.values name = values ↔ c.Layers calls name values) ∧
    (c.send resolver before draft).transport.received = before.received ++ [request] ∧
    ∃ sent : Request,
      (c.executeDecoded resolver before draft decoder).transport.received =
        before.received ++ [sent] ∧
      (c.execute resolver before draft decoder).transport.received = before.received ++ [sent] ∧
      sent = { request with headers := sent.headers } ∧
      ∀ name, sent.headers.values name =
        if name = HeaderName.accept ∧ type ≠ "" ∧ method ≠ .head ∧
            ∀ call ∈ calls, call.givesHeader HeaderName.accept = false then
          [Utf8.encode type]
        else request.headers.values name := by
  intro draft type
  obtain ⟨sent, hsent, hsame, hvalues⟩ := build_accepting_exact hbuild decoder.codec
  have hsend : Transmits (c.build resolver draft) before (c.send resolver before draft) :=
    c.transmits_dispatch resolver before draft .text
  have hdecoded : Transmits (c.build resolver (draft.accepting decoder.codec)) before
      (c.executeDecoded resolver before draft decoder) :=
    (c.transmits_dispatch resolver before _ decoder.codec.format).andThen _
  have hexecute : Transmits (c.build resolver (draft.accepting decoder.codec)) before
      (c.execute resolver before draft decoder) :=
    hdecoded.andThen _
  refine ⟨?_, (hsend.handed request hbuild).1, sent, (hdecoded.handed sent hsent).1,
    (hexecute.handed sent hsent).1, hsame, ?_⟩
  · intro name values
    obtain ⟨-, resolved, -, rfl⟩ := build_eq_ok_iff_resolved.1 hbuild
    exact layers_iff.symm
  · intro name
    have hasks : draft.asksFor decoder.codec = true ↔ type ≠ "" ∧ method ≠ .head ∧
        ∀ call ∈ calls, call.givesHeader HeaderName.accept = false := by
      simpa using Draft.asksFor_ofCalls method template calls decoder.codec
    have hname := hvalues name
    simp only [draft] at hasks
    simp only [hasks] at hname
    exact hname

/-- A client with a tag of its own, which would be given pages. -/
def tagging : Client :=
  { sample with
    config :=
      { sample.config with
        defaultHeaders := .ofPairs
          [("x-tag", Utf8.encode "own"), (HeaderName.accept, Utf8.encode "text/html")] } }

/-- A tag that is set between two that are added, and a text that gives way to mere bytes. -/
def tags : List Call :=
  [.appendHeader "x-tag" (Utf8.encode "a"), .header "x-tag" (Utf8.encode "b"),
    .appendHeader "x-tag" (Utf8.encode "c"), .text "hi", .body [0] none]

theorem tagging_headers_layered :
    ∃ request, (tagging.build default (.ofCalls .post "/x" tags)).result = .ok request ∧
      request.headers.values "x-tag" = [Utf8.encode "b", Utf8.encode "c"] ∧
      request.headers.values HeaderName.accept = [Utf8.encode "text/html"] ∧
      request.headers.values HeaderName.contentType = [Utf8.encode "application/octet-stream"] ∧
      ∃ sent : Request,
        (tagging.execute default (⟨[], ⟨[.ok (busy none)]⟩⟩ : Recorder Script)
          (.ofCalls .post "/x" tags) Decoder.json).transport.received = [sent] ∧
        sent.headers.values HeaderName.accept = [Utf8.encode "application/json"] := by
  obtain ⟨request, hbuild⟩ : ∃ request,
      (tagging.build default (.ofCalls .post "/x" tags)).result = .ok request :=
    build_plain rfl rfl
  obtain ⟨hlayers, -, sent, -, hexecute, -, hvalues⟩ :=
    headers_layered hbuild (⟨[], ⟨[.ok (busy none)]⟩⟩ : Recorder Script) Decoder.json
  have htag : Call.Gives "x-tag" tags [Utf8.encode "b", Utf8.encode "c"] :=
    .set [_] _ (by decide)
  refine ⟨request, hbuild, (hlayers _ _).2 (.own (by decide) htag),
    (hlayers _ _).2 (.preset (by decide) (by decide)),
    (hlayers _ _).2 (.implied (by decide) (by decide)), sent, hexecute, ?_⟩
  exact (hvalues HeaderName.accept).trans (if_pos (by decide))

end Client

end RestTemplates
