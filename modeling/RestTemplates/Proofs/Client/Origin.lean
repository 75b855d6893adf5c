import RestTemplates.Proofs.BaseUrl
import RestTemplates.Proofs.Client.TargetQuery

/-!
# Origins — no template leads to another host

Whatever a template spells, it is only ever set as the path and the query of the base URL.  A path
starts with a slash and holds neither `?` nor `#`, so that nothing of it can be read as another part
of the URL, and all that stands before it is what stands before the path of the base URL.

This file defines:

* `Url.StaysAt`, how a URL is made up of a base URL, a path and a query,
* `Client.IsMade`, the clients that come from settings.

It proves:

* `Client.staysAt_targetUrl`, every rendered path and query gives such a URL,
* `Client.stays_at_origin`, so does every template and every draft.
-/

namespace RestTemplates

/-- The URL differs from a base URL in its path and query alone, and its text shows where these
start. -/
structure Url.StaysAt (base : Url) (query : Query) (u : Url) : Prop where
  scheme : u.scheme = base.scheme
  username : u.username = base.username
  password : u.password = base.password
  host : u.host = base.host
  port : u.port = base.port
  fragment : u.fragment = none
  head? : u.path.toList.head? = some '/'
  not_mem : '?' ∉ u.path.toList ∧ '#' ∉ u.path.toList
  text :
    u.text =
      base.origin ++ u.path ++ (if query.keys = [] then "" else "?" ++ query.encode)

namespace Url

/-- What stands before the path does not depend on path and query. -/
theorem text_with {u : Url} (h : u.fragment = none) (path : String) (query : Option String) :
    { u with path, query }.text =
      u.origin ++ path ++ (query.map ("?" ++ ·)).getD "" := by
  have horigin : { u with path, query }.origin = u.origin := rfl
  have hfragment : { u with path, query }.fragment = none := h
  rw [text, horigin, hfragment]
  cases query <;> exact String.append_empty

theorem text_of_hasOnlyPath {u : Url} (h : u.HasOnlyPath) : u.text = u.origin ++ u.path := by
  calc
    u.text = u.origin ++ u.path ++ (u.query.map ("?" ++ ·)).getD "" :=
      text_with h.fragment u.path u.query
    _ = u.origin ++ u.path ++ "" := by rw [h.query]; rfl
    _ = u.origin ++ u.path := String.append_empty

end Url

namespace Client

/-- The base URL is the one of the settings. -/
def IsMade (c : Client) : Prop := c.config.baseUrl = .ok c.base

theorem isMade_ofConfig {config : Config} {c : Client} (h : ofConfig config = .ok c) :
    c.IsMade := by
  obtain ⟨base, hbase, rfl⟩ := Fallible.map_eq_ok_iff.1 h
  exact hbase

theorem IsMade.withSink {c : Client} (h : c.IsMade) (sink : Sink) : (c.withSink sink).IsMade := h

theorem IsMade.withLevel {c : Client} (h : c.IsMade) (level : DebugLevel) :
    { c with level }.IsMade := h

theorem staysAt_targetUrl {c : Client} (h : c.IsMade) (resolved : ResolvedPath) :
    Url.StaysAt c.base resolved.query (c.targetUrl resolved) := by
  have hfragment : c.base.fragment = none := (Config.hasOnlyPath_baseUrl h).fragment
  have hplain : ∀ d ∈ UrlPath.normalize resolved.path.toList, UrlPath.IsPlain d :=
    fun d hd => UrlPath.isPlain_normalize hd
  -- written out like this, the URL shows which parts it has from the base URL
  rw [targetUrl_eq]
  refine ⟨rfl, rfl, rfl, rfl, rfl, hfragment, ?_, ?_, ?_⟩
  · rw [String.toList_ofList]
    exact UrlPath.head?_normalize _
  · rw [String.toList_ofList]
    exact ⟨fun hmem => absurd (hplain '?' hmem) (by decide),
      fun hmem => absurd (hplain '#' hmem) (by decide)⟩
  · rw [Url.text_with hfragment]
    cases hquery : resolved.queryString? with
    | none =>
        rw [if_pos (ResolvedPath.queryString?_eq_none_iff.1 hquery)]
        rfl
    | some text =>
        have hkeys : resolved.query.keys ≠ [] := by
          intro hkeys
          cases (ResolvedPath.queryString?_eq_none_iff.2 hkeys).symm.trans hquery
        rw [if_neg hkeys, ResolvedPath.eq_encode_of_queryString? hquery]
        rfl

/-- The URL of a template has the query of its text, with the given one merged into it. -/
theorem staysAt_of_target {c : Client} (hmade : c.IsMade) {resolver : Resolver}
    (h : resolver.cache.Reachable) {raw : String} {params : PathParams} {overrides : Query}
    {url : Url} (hurl : (c.target resolver raw params overrides).result = .ok url) :
    ∃ own, Query.parse (UrlTemplate.queryText raw) = .ok own ∧
      Url.StaysAt c.base (own.merge resolver.policy overrides) url := by
  obtain ⟨t, path, ht, -, rfl⟩ := (target_eq_ok_iff h).1 hurl
  exact ⟨t.query, (UrlTemplate.parse_eq_ok_iff.1 ht).2.2, staysAt_targetUrl hmade ⟨path, _⟩⟩

theorem staysAt_of_build {c : Client} (hmade : c.IsMade) {resolver : Resolver}
    (h : resolver.cache.Reachable) {d : Draft} {request : Request}
    (hbuild : (c.build resolver d).result = .ok request) :
    ∃ own, Query.parse (UrlTemplate.queryText d.template) = .ok own ∧
      Url.StaysAt c.base (own.merge (d.policy.getD resolver.policy) d.query) request.url := by
  obtain ⟨-, t, path, ht, -, rfl⟩ := (build_eq_ok_iff h).1 hbuild
  exact ⟨t.query, (UrlTemplate.parse_eq_ok_iff.1 ht).2.2, staysAt_targetUrl hmade ⟨path, _⟩⟩

/-- A URL or request of a client has the text of its base URL up to the path, then a path, and then
the merged query unless that is empty. -/
theorem stays_at_origin {c : Client} (hmade : c.IsMade) {resolver : Resolver}
    (h : resolver.cache.Reachable) :
    c.base.text = c.base.origin ++ c.base.path ∧
      (∀ raw params overrides url,
        (c.target resolver raw params overrides).result = .ok url →
          ∃ own, Query.parse (UrlTemplate.queryText raw) = .ok own ∧
            Url.StaysAt c.base (own.merge resolver.policy overrides) url) ∧
      ∀ d request, (c.build resolver d).result = .ok request →
        ∃ own, Query.parse (UrlTemplate.queryText d.template) = .ok own ∧
          Url.StaysAt c.base (own.merge (d.policy.getD resolver.policy) d.query) request.url := by
  refine ⟨Url.text_of_hasOnlyPath (Config.hasOnlyPath_baseUrl hmade), ?_, ?_⟩
  · intro raw params overrides url hurl
    exact staysAt_of_target hmade h hurl
  · intro d request hbuild
    exact staysAt_of_build hmade h hbuild

/-- What looks like another host behind the slashes of a URL is a path. -/
theorem other_host_is_path :
    ∃ url, (sample.target default "//other.example:80" .empty .empty).result = .ok url ∧
      url.host = .name "api.example.com" ∧
      url.text = "https://api.example.com//other.example:80" := by
  have hmade : sample.IsMade := by
    show sample.config.baseUrl = .ok sample.base
    decide +kernel
  have hparse : UrlTemplate.parse "//other.example:80" =
      .ok ⟨"//other.example:80", PathTemplate.build [.literal "//other.example:80"], .empty⟩ :=
    UrlTemplate.parse_of_canonical ⟨by decide, by decide, by decide, by decide, by decide⟩
      (by decide) (by decide)
  have hrender : (PathTemplate.build [.literal "//other.example:80"]).render .empty =
      .ok "//other.example:80" := by
    decide
  obtain ⟨url, hurl⟩ := exists_target (c := sample) reachable_default .empty hparse hrender
  obtain ⟨path, hrender', hpath⟩ := target_eq_ok reachable_default hparse hurl
  cases hrender.symm.trans hrender'
  obtain ⟨own, hown, hstays⟩ := (stays_at_origin hmade reachable_default).2.1 _ _ _ _ hurl
  cases (UrlTemplate.parse_eq_ok_iff.1 hparse).2.2.symm.trans hown
  refine ⟨url, hurl, hstays.host, ?_⟩
  rw [hstays.text, hpath]
  decide

end Client

end RestTemplates
