import RestTemplates.Client.Send
import RestTemplates.Proofs.Fallible
import RestTemplates.Proofs.Template.CacheHistory
import RestTemplates.Proofs.Template.Grammar

/-!
# Building — what a successful call was built from

A call reads its template through the cache of a resolver.  No history of look-ups leaves a cache
that answers otherwise than reading the raw text anew, so a call depends on the text, the values and
the policy alone, and not on what was asked before.

This module proves:

* `UrlTemplate.parse_eq_ok_iff`, a raw text is read as a path and a query,
* `Resolver.renderWith_eq_ok_iff`, which texts are rendered, and to what,
* `Client.target_eq_ok_iff` and `Client.build_eq_ok_iff`, which calls succeed, and with what,
* `Client.dispatch_of_error` and `Client.dispatch_of_ok`, what sending makes of what was built.
-/

namespace RestTemplates

open Fallible

/-! ## Raw texts -/

namespace UrlTemplate

theorem parse_eq_ok_iff {raw : String} {t : UrlTemplate} :
    parse raw = .ok t ↔
      t.raw = raw ∧ PathTemplate.compile (pathText raw) = .ok t.path ∧
        Query.parse (queryText raw) = .ok t.query := by
  constructor
  · intro h
    obtain ⟨path, hpath, hrest⟩ := bind_eq_ok_iff.1 h
    obtain ⟨query, hquery, hread⟩ := bind_eq_ok_iff.1 hrest
    cases hread
    exact ⟨rfl, hpath, hquery⟩
  · rintro ⟨rfl, hpath, hquery⟩
    rw [parse, hpath, hquery]
    rfl

/-- A text that is cut into the text of some segments and the text of a query. -/
theorem parse_of_parts {raw : String} {segments : List Segment} {query : Query}
    (h : PathTemplate.Canonical segments) (hpath : pathText raw = PathTemplate.textOf segments)
    (hquery : Query.parse (queryText raw) = .ok query) :
    parse raw = .ok ⟨raw, PathTemplate.build segments, query⟩ := by
  have hcompile : PathTemplate.compile (pathText raw) = .ok (PathTemplate.build segments) := by
    rw [hpath]
    exact PathTemplate.compile_textOf h
  exact parse_eq_ok_iff.2 ⟨rfl, hcompile, hquery⟩

end UrlTemplate

/-! ## Rendering -/

namespace Resolver

/-- Rendering through a cache is rendering the text read anew. -/
theorem renderWith_result {r : Resolver} (h : r.cache.Reachable) (raw : String)
    (params : PathParams) (overrides : Query) (policy : MergePolicy) :
    (r.renderWith raw params overrides policy).result =
      ((UrlTemplate.parse raw).bind fun t => fill t params overrides policy).mapError
        (⟨raw, ·⟩) := by
  -- the cache may have the template already, but then it is the one that the text reads as
  have hparse := h.map_template_resolve raw
  cases hresult : (r.cache.resolve raw).result with
  | error e =>
      rw [hresult] at hparse
      rw [← hparse, renderWith, parse, hresult]
      rfl
  | ok entry =>
      rw [hresult] at hparse
      rw [← hparse, renderWith, parse, hresult]
      rfl

/-- A resolver finds what a raw text reads as. -/
theorem exists_parse_eq_ok {r : Resolver} (h : r.cache.Reachable) {raw : String} {t : UrlTemplate}
    (ht : UrlTemplate.parse raw = .ok t) :
    ∃ entry, (r.parse raw).result = .ok entry ∧ entry.template = t := by
  have hresolve : (r.cache.resolve raw).result.map (·.template) = .ok t := by
    rw [h.map_template_resolve raw, ht]
  rcases map_eq_ok_iff.1 hresolve with ⟨entry, hentry, htemplate⟩
  exact ⟨entry, mapError_eq_ok_iff.2 hentry, htemplate⟩

theorem renderWith_eq_ok_iff {r : Resolver} (h : r.cache.Reachable) {raw : String}
    {params : PathParams} {overrides : Query} {policy : MergePolicy} {resolved : ResolvedPath} :
    (r.renderWith raw params overrides policy).result = .ok resolved ↔
      ∃ t path, UrlTemplate.parse raw = .ok t ∧ t.path.render params = .ok path ∧
        resolved = ⟨path, t.query.merge policy overrides⟩ := by
  rw [renderWith_result h, mapError_eq_ok_iff, bind_eq_ok_iff]
  constructor
  · rintro ⟨t, ht, hfill⟩
    obtain ⟨path, hpath, hresolved⟩ := map_eq_ok_iff.1 hfill
    exact ⟨t, path, ht, hpath, hresolved.symm⟩
  · rintro ⟨t, path, ht, hpath, hresolved⟩
    exact ⟨t, ht, map_eq_ok_iff.2 ⟨path, hpath, hresolved.symm⟩⟩

end Resolver

/-! ## Calls -/

namespace Client

/-- A new resolver has read nothing yet. -/
theorem reachable_default : (default : Resolver).cache.Reachable :=
  TemplateCache.reachable_empty

/-- A URL is made of a template that can be read and rendered. -/
theorem target_eq_ok_iff {c : Client} {resolver : Resolver} (h : resolver.cache.Reachable)
    {raw : String} {params : PathParams} {overrides : Query} {url : Url} :
    (c.target resolver raw params overrides).result = .ok url ↔
      ∃ t path, UrlTemplate.parse raw = .ok t ∧ t.path.render params = .ok path ∧
        url = c.targetUrl ⟨path, t.query.merge resolver.policy overrides⟩ := by
  rw [target, Resolver.render, mapError_eq_ok_iff, map_eq_ok_iff]
  constructor
  · rintro ⟨resolved, hresolved, rfl⟩
    obtain ⟨t, path, ht, hpath, rfl⟩ := (Resolver.renderWith_eq_ok_iff h).1 hresolved
    exact ⟨t, path, ht, hpath, rfl⟩
  · rintro ⟨t, path, ht, hpath, rfl⟩
    exact ⟨_, (Resolver.renderWith_eq_ok_iff h).2 ⟨t, path, ht, hpath, rfl⟩, rfl⟩

/-- A request is made of a draft whose body could be encoded and whose template is resolved. -/
theorem build_eq_ok_iff_resolved {c : Client} {resolver : Resolver} {d : Draft}
    {request : Request} :
    (c.build resolver d).result = .ok request ↔
      d.encodingFailure = none ∧
        ∃ resolved,
          (resolver.renderWith d.template d.params d.query
            (d.policy.getD resolver.policy)).result = .ok resolved ∧
          c.requestOf d resolved = request := by
  rw [build]
  cases hfailure : d.encodingFailure with
  | some failure =>
      simp
  | none =>
      simp only [true_and]
      rw [mapError_eq_ok_iff, map_eq_ok_iff]

/-- A request is called what its draft is called. -/
theorem operation_of_build {c : Client} {resolver : Resolver} {d : Draft} {request : Request}
    (h : (c.build resolver d).result = .ok request) :
    request.info.operation = d.operationName := by
  obtain ⟨-, resolved, -, rfl⟩ := build_eq_ok_iff_resolved.1 h
  rfl

/-- The template is resolved if it can be read and rendered. -/
theorem build_eq_ok_iff {c : Client} {resolver : Resolver} (h : resolver.cache.Reachable)
    {d : Draft} {request : Request} :
    (c.build resolver d).result = .ok request ↔
      d.encodingFailure = none ∧
        ∃ t path, UrlTemplate.parse d.template = .ok t ∧ t.path.render d.params = .ok path ∧
          request = c.requestOf d
            ⟨path, t.query.merge (d.policy.getD resolver.policy) d.query⟩ := by
  rw [build_eq_ok_iff_resolved]
  refine and_congr_right fun _ => ?_
  constructor
  · rintro ⟨resolved, hresolved, rfl⟩
    obtain ⟨t, path, ht, hpath, rfl⟩ := (Resolver.renderWith_eq_ok_iff h).1 hresolved
    exact ⟨t, path, ht, hpath, rfl⟩
  · rintro ⟨t, path, ht, hpath, rfl⟩
    exact ⟨_, (Resolver.renderWith_eq_ok_iff h).2 ⟨t, path, ht, hpath, rfl⟩, rfl⟩

/-! ## Sending -/

section Sending

variable {σ : Type} [Transport σ] {c : Client} {resolver : Resolver} {d : Draft}

/-- Without a request nothing is sent. -/
theorem dispatch_of_error {e : ClientError} (h : (c.build resolver d).result = .error e)
    (transport : σ) (format : BodyFormat) :
    c.dispatch resolver transport d format =
      { result := .error e
        resolver := (c.build resolver d).resolver
        transport
        lookup := (c.build resolver d).lookup
        diagnostics := [] } := by
  rw [dispatch, h]

/-- A request is sent as it was built, and what becomes of it is an exchange. -/
theorem dispatch_of_ok {request : Request} (h : (c.build resolver d).result = .ok request)
    (transport : σ) (format : BodyFormat) :
    let sent := Transport.send transport request
    let exchange := Exchange.of ⟨request, c.levelOf d, d.bodyFormat, format⟩ sent.1
    c.dispatch resolver transport d format =
      { result := exchange.result.mapError (ClientError.tag d.operationName)
        resolver := (c.build resolver d).resolver
        transport := sent.2
        lookup := (c.build resolver d).lookup
        diagnostics := exchange.diagnostics } := by
  rw [dispatch, h]

/-- Sending looks up what building looks up. -/
theorem resolver_dispatch (c : Client) (resolver : Resolver) (transport : σ) (d : Draft)
    (format : BodyFormat) :
    (c.dispatch resolver transport d format).resolver = (c.build resolver d).resolver ∧
      (c.dispatch resolver transport d format).lookup = (c.build resolver d).lookup := by
  cases hbuilt : (c.build resolver d).result with
  | error e =>
      rw [dispatch_of_error hbuilt]
      exact ⟨rfl, rfl⟩
  | ok request =>
      rw [dispatch_of_ok hbuilt]
      exact ⟨rfl, rfl⟩

end Sending

end Client

end RestTemplates
