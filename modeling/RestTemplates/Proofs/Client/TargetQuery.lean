import RestTemplates.Proofs.Client.Calls
import RestTemplates.Proofs.Client.TargetPath
import RestTemplates.Proofs.Url.Query

/-!
# Target queries — the query of a request is the merged query

What the calls on a draft add to its query is merged into the query of the template, written, set as
the query of a URL and decoded there by whoever looks at the request.  Each of these stages has its
own way of writing, and together they change nothing.

This file proves:

* `Client.targetUrl_eq` and `Client.queryPairs_targetUrl`, what a URL makes of a query,
* `Client.build_query_exact`, the query of a request is the merged one, however it is read.
-/

namespace RestTemplates

/-! ## URLs -/

namespace ResolvedPath

theorem queryString?_eq_none_iff {r : ResolvedPath} :
    r.queryString? = none ↔ r.query.keys = [] := by
  rw [queryString?, ← MultiMap.isEmpty_iff]
  split
  · next hempty => simp [hempty]
  · next hfilled => simp [hfilled]

theorem eq_encode_of_queryString? {r : ResolvedPath} {text : String}
    (h : r.queryString? = some text) : text = r.query.encode := by
  rw [queryString?] at h
  split at h
  · cases h
  · exact (Option.some.inj h).symm

end ResolvedPath

namespace Client

open ResolvedPath (queryString?_eq_none_iff eq_encode_of_queryString?)

/-- The query of a resolved path is put into the URL letter for letter. -/
theorem targetUrl_eq (c : Client) (resolved : ResolvedPath) :
    c.targetUrl resolved =
      { c.base with
        path := String.ofList (UrlPath.normalize resolved.path.toList)
        query := resolved.queryString? } := by
  rw [targetUrl]
  cases hquery : resolved.queryString? with
  | none => rfl
  | some text =>
      rw [eq_encode_of_queryString? hquery, Query.encode, Url.setQuery_encode]
      rfl

theorem query_targetUrl (c : Client) (resolved : ResolvedPath) :
    (c.targetUrl resolved).query = resolved.queryString? := by
  rw [targetUrl_eq]

/-- The decoded pairs of the URL are the pairs of that query. -/
theorem queryPairs_targetUrl (c : Client) (resolved : ResolvedPath) :
    (c.targetUrl resolved).queryPairs = resolved.query.pairs := by
  rw [Url.queryPairs, query_targetUrl]
  cases hquery : resolved.queryString? with
  | none => exact (MultiMap.pairs_eq_nil_iff.2 (queryString?_eq_none_iff.1 hquery)).symm
  | some text =>
      rw [eq_encode_of_queryString? hquery]
      exact Form.decode_encode resolved.query.pairs

/-- The query of a request is the one of its template with that of the calls merged into it: it is
left out exactly if it is empty, it is written once, and both readers give it back. -/
theorem build_query_exact {c : Client} {resolver : Resolver} (h : resolver.cache.Reachable)
    {method : Method} {template : String} {calls : List Call} {request : Request}
    (hbuild : (c.build resolver (.ofCalls method template calls)).result = .ok request) :
    ∃ own, Query.parse (UrlTemplate.queryText template) = .ok own ∧
      let sent := own.merge (Call.policyOr calls resolver.policy) (Call.overrides calls)
      (request.url.query = none ↔ sent.keys = []) ∧
      (∀ text, request.url.query = some text →
        text = sent.encode ∧ Query.parse text = .ok sent) ∧
      request.url.queryPairs = sent.pairs := by
  obtain ⟨-, t, path, ht, -, hrequest⟩ := (build_eq_ok_iff h).1 hbuild
  rw [Draft.template_ofCalls] at ht
  refine ⟨t.query, (UrlTemplate.parse_eq_ok_iff.1 ht).2.2, ?_⟩
  intro sent
  -- of the request only its URL matters from here on
  have hurl : request.url = c.targetUrl ⟨path, sent⟩ := by
    rw [hrequest, Draft.policy_ofCalls, Draft.query_ofCalls]
    rfl
  rw [hurl, query_targetUrl, queryPairs_targetUrl]
  refine ⟨queryString?_eq_none_iff (r := ⟨path, sent⟩), ?_, rfl⟩
  intro text htext
  have hencode : text = sent.encode := eq_encode_of_queryString? (r := ⟨path, sent⟩) htext
  exact ⟨hencode, hencode ▸ Query.parse_encode sent⟩

/-- A search by tags, where the call adds a tag to that of the template. -/
def tagCalls : List Call :=
  [.query "tag" "ü&", .policy .append, .queryOption "page" none]

theorem parse_tagged :
    UrlTemplate.parse "/s?tag=a" =
      .ok ⟨"/s?tag=a", PathTemplate.build [.literal "/s"], .ofPairs [("tag", "a")]⟩ :=
  UrlTemplate.parse_of_parts ⟨by decide, by decide, by decide, by decide, by decide⟩ (by decide)
    (by decide +kernel)

theorem tagged_request_query :
    ∃ request, (sample.build default (.ofCalls .get "/s?tag=a" tagCalls)).result = .ok request ∧
      request.url.query = some "tag=a&tag=%C3%BC%26" ∧
      request.url.queryPairs = [("tag", "a"), ("tag", "ü&")] := by
  have hrender : (PathTemplate.build [.literal "/s"]).render .empty = .ok "/s" := by
    decide
  have hbuilds : ∃ request,
      (sample.build default (.ofCalls .get "/s?tag=a" tagCalls)).result = .ok request :=
    ⟨_, (build_eq_ok_iff reachable_default).2 ⟨rfl, _, _, parse_tagged, hrender, rfl⟩⟩
  obtain ⟨request, hbuild⟩ := hbuilds
  obtain ⟨own, hown, hnone, htext, hpairs⟩ := build_query_exact reachable_default hbuild
  -- the query of the template is the one read when it was parsed
  cases (UrlTemplate.parse_eq_ok_iff.1 parse_tagged).2.2.symm.trans hown
  refine ⟨request, hbuild, ?_, hpairs.trans (by decide +kernel)⟩
  cases hquery : request.url.query with
  | none => exact absurd (hnone.1 hquery) (by decide +kernel)
  | some text =>
      rw [(htext text hquery).1]
      decide +kernel

end Client

end RestTemplates
