import RestTemplates.Proofs.Client.Building
import RestTemplates.Proofs.Template.DotSegments

/-!
# Target paths — when the URL of a call has the path that was rendered

A client sets the rendered path as the path of its base URL, and there the path is normalized.  A
template is probed by binding every placeholder to the letter `x`: if the URL then has the rendered
path, the text of the template itself is left alone, and other values can change the path in one way
only, by completing a cell of the template to a dot segment.

The values are checked one by one, which keeps a placeholder that has its cell to itself from being
a dot segment.  Nothing keeps other cells from it: two dots and a placeholder read as a move up if
the value is empty.

This module proves:

* `target_path_eq_iff`, which calls have the rendered path, and for which templates all have it,
* `keepsPaths_of_lone_holes`, that they all have it if every placeholder has its cell to itself,
* `empty_values_move_target`, a probed template with a call that has not.
-/

namespace RestTemplates

open UrlPath (isMove normalize)

/-! ## Templates with plain text -/

namespace PathTemplate

/-- The text of a template starts with a slash, and normalization changes no character of it. -/
structure HasPlainText (t : PathTemplate) : Prop where
  head : (symbolsOf t.segments).head? = some (.char '/')
  chars : ∀ c, Symbol.char c ∈ symbolsOf t.segments → UrlPath.IsPlain c

theorem isPlain_of_mem_fill {symbols : List Symbol} (values : String → String)
    (h : ∀ c, Symbol.char c ∈ symbols → UrlPath.IsPlain c) :
    ∀ c ∈ fill (writtenOf values) symbols, UrlPath.IsPlain c := by
  intro c hc
  rcases List.mem_flatMap.1 hc with ⟨s, hs, hc⟩
  cases s with
  | char d => exact List.mem_singleton.1 hc ▸ h d hs
  | hole name => exact (isPlain_of_mem_encodeValue hc).1

/-- Among paths of plain text, the ones without dot segments are left alone. -/
theorem normalize_render_iff {t : PathTemplate} (h : t.HasPlainText) {params : PathParams}
    {path : String} (hrender : t.render params = .ok path) :
    normalize path.toList = path.toList ↔
      ∀ cell ∈ t.cells, isMove (fill (written params) cell) = false := by
  have hpath := (render_eq_ok_iff.1 hrender).2
  have hhead : path.toList.head? = some '/' := by
    rcases List.head?_eq_some_iff.1 h.head with ⟨symbols, hsymbols⟩
    rw [hpath, hsymbols, fill_cons]
    rfl
  have hplain : ∀ c ∈ path.toList, UrlPath.IsPlain c := by
    rw [hpath]
    exact isPlain_of_mem_fill _ h.chars
  rw [UrlPath.normalize_eq_self_iff, splitOn_of_render hrender, List.forall_mem_map]
  exact ⟨fun hself => hself.2.2, fun hmove => ⟨hhead, hplain, hmove⟩⟩

/-- If the path is left alone while every placeholder is the letter `x`, the text is plain. -/
theorem hasPlainText_of_probe {t : PathTemplate} {params : PathParams} {path : String}
    (hprobe : ∀ name ∈ t.placeholders, params.find? name = some "x")
    (hrender : t.render params = .ok path) (hself : normalize path.toList = path.toList) :
    t.HasPlainText := by
  have hpath := (render_eq_ok_iff.1 hrender).2
  obtain ⟨hhead, hplain, -⟩ := (UrlPath.normalize_eq_self_iff _).1 hself
  rw [hpath] at hhead hplain
  refine ⟨?_, ?_⟩
  · cases hsymbols : symbolsOf t.segments with
    | nil =>
        rw [hsymbols] at hhead
        cases hhead
    | cons s symbols =>
        rw [hsymbols, fill_cons] at hhead
        cases s with
        | char c =>
            have hc : c = '/' := by
              simpa [fillSymbol] using hhead
            rw [hc]
            rfl
        | hole name =>
            -- a path that starts with a placeholder would start with the letter
            have hname : name ∈ t.placeholders := by
              have hmem : name ∈ holes (symbolsOf t.segments) := by
                rw [hsymbols]
                exact List.mem_cons_self
              rwa [holes_symbolsOf] at hmem
            have hx : written params name = ['x'] := by
              rw [written, writtenOf, hprobe name hname]
              rfl
            rw [fillSymbol, hx] at hhead
            cases hhead
  · intro c hc
    exact hplain c (List.mem_flatMap.2 ⟨_, hc, List.mem_singleton.2 rfl⟩)

end PathTemplate

namespace UrlTemplate

theorem compile_of_parse {raw : String} {t : UrlTemplate} (h : parse raw = .ok t) :
    PathTemplate.compile (pathText raw) = .ok t.path :=
  (parse_eq_ok_iff.1 h).2.1

/-- A text without query and fragment is read as its path. -/
theorem parse_of_canonical {raw : String} {segments : List Segment}
    (h : PathTemplate.Canonical segments) (hpath : pathText raw = PathTemplate.textOf segments)
    (hquery : queryText raw = "") :
    parse raw = .ok ⟨raw, PathTemplate.build segments, .empty⟩ := by
  have hempty : Query.parse (queryText raw) = .ok .empty := by
    rw [hquery]
    rfl
  exact parse_of_parts h hpath hempty

end UrlTemplate

/-! ## Targets -/

namespace Client

open PathTemplate (fill written writtenOf symbolsOf canMove)

/-- A call succeeds exactly if its template can be rendered, and the path of its URL is the
normalized one. -/
theorem target_eq_ok {c : Client} {resolver : Resolver} (h : resolver.cache.Reachable)
    {raw : String} {params : PathParams} {overrides : Query} {t : UrlTemplate} {url : Url}
    (ht : UrlTemplate.parse raw = .ok t)
    (hurl : (c.target resolver raw params overrides).result = .ok url) :
    ∃ path, t.path.render params = .ok path ∧
      url.path = String.ofList (normalize path.toList) := by
  obtain ⟨t', path, ht', hrender, rfl⟩ := (target_eq_ok_iff h).1 hurl
  cases ht.symm.trans ht'
  exact ⟨path, hrender, rfl⟩

theorem exists_target {c : Client} {resolver : Resolver} (h : resolver.cache.Reachable)
    {raw : String} {params : PathParams} (overrides : Query) {t : UrlTemplate} {path : String}
    (ht : UrlTemplate.parse raw = .ok t) (hrender : t.path.render params = .ok path) :
    ∃ url, (c.target resolver raw params overrides).result = .ok url :=
  ⟨_, (target_eq_ok_iff h).2 ⟨t, path, ht, hrender, rfl⟩⟩

theorem render_eq_path_iff {path : String} {t : PathTemplate} {params : PathParams} {url : Url}
    (hrender : t.render params = .ok path)
    (hpath : url.path = String.ofList (normalize path.toList)) :
    t.render params = .ok url.path ↔ normalize path.toList = path.toList := by
  rw [hrender, hpath, Except.ok.injEq, ← String.toList_inj, String.toList_ofList, eq_comm]

/-! ## Probed templates -/

/-- Bound to the letter `x` throughout, the template gives a URL with the rendered path. -/
def IsProbed (c : Client) (raw : String) (overrides : Query) : Prop :=
  ∃ (resolver : Resolver) (t : UrlTemplate) (params : PathParams) (url : Url),
    resolver.cache.Reachable ∧ UrlTemplate.parse raw = .ok t ∧
      (∀ name ∈ t.path.placeholders, params.find? name = some "x") ∧
      (c.target resolver raw params overrides).result = .ok url ∧
      t.path.render params = .ok url.path

/-- Whatever values are bound, a call that succeeds gives a URL with the rendered path. -/
def KeepsPaths (c : Client) (raw : String) (overrides : Query) : Prop :=
  ∀ (resolver : Resolver) (t : UrlTemplate) (params : PathParams) (url : Url),
    resolver.cache.Reachable → UrlTemplate.parse raw = .ok t →
      (c.target resolver raw params overrides).result = .ok url →
      t.path.render params = .ok url.path

theorem IsProbed.exists_hasPlainText {c : Client} {raw : String} {overrides : Query}
    (h : c.IsProbed raw overrides) :
    ∃ t, UrlTemplate.parse raw = .ok t ∧ t.path.HasPlainText := by
  rcases h with ⟨resolver, t, params, url, hresolver, ht, hprobe, hurl, hkept⟩
  rcases target_eq_ok hresolver ht hurl with ⟨path, hrender, hpath⟩
  have hself := (render_eq_path_iff hrender hpath).1 hkept
  exact ⟨t, ht, PathTemplate.hasPlainText_of_probe hprobe hrender hself⟩

/-- A call on a template of plain text has the rendered path exactly if no filled cell is a dot
segment. -/
theorem render_eq_url_path_iff {c : Client} {resolver : Resolver} {raw : String}
    {params : PathParams} {overrides : Query} {t : UrlTemplate} {url : Url}
    (hplain : t.path.HasPlainText) (h : resolver.cache.Reachable)
    (ht : UrlTemplate.parse raw = .ok t)
    (hurl : (c.target resolver raw params overrides).result = .ok url) :
    t.path.render params = .ok url.path ↔
      ∀ cell ∈ t.path.cells, isMove (fill (written params) cell) = false := by
  rcases target_eq_ok h ht hurl with ⟨path, hrender, hpath⟩
  rw [render_eq_path_iff hrender hpath, PathTemplate.normalize_render_iff hplain hrender]

/-- All calls on a template of plain text have it exactly if no cell can be filled so. -/
theorem keepsPaths_iff {c : Client} {raw : String} {overrides : Query} {t : UrlTemplate}
    (hplain : t.path.HasPlainText) (ht : UrlTemplate.parse raw = .ok t) :
    c.KeepsPaths raw overrides ↔ ∀ cell ∈ t.path.cells, canMove cell = false := by
  constructor
  · intro hkeeps cell hcell
    refine Bool.eq_false_iff.2 ?_
    intro hmove
    have hnodup := PathTemplate.nodup_placeholders_of_compile (UrlTemplate.compile_of_parse ht)
    rcases PathTemplate.exists_render_of_canMove hnodup ⟨cell, hcell, hmove⟩ with
      ⟨params, path, hrender, segment, hsegment, hdot⟩
    -- the bindings that complete the cell, with a resolver that has not read anything yet
    rcases exists_target (c := c) reachable_default overrides ht hrender with ⟨url, hurl⟩
    have hkept := (render_eq_url_path_iff hplain reachable_default ht hurl).1
      (hkeeps _ t params url reachable_default ht hurl)
    rw [PathTemplate.splitOn_of_render hrender] at hsegment
    rcases List.mem_map.1 hsegment with ⟨other, hother, rfl⟩
    exact Bool.eq_false_iff.1 (hkept other hother) hdot
  · intro hcells resolver t' params url hresolver ht' hurl
    cases ht.symm.trans ht'
    refine (render_eq_url_path_iff hplain hresolver ht hurl).2 ?_
    intro cell hcell
    refine Bool.eq_false_iff.2 ?_
    intro hmove
    rcases target_eq_ok hresolver ht hurl with ⟨path, hrender, -⟩
    have hsegment : fill (written params) cell ∈ path.toList.splitOn '/' := by
      rw [PathTemplate.splitOn_of_render hrender]
      exact List.mem_map.2 ⟨cell, hcell, rfl⟩
    rcases PathTemplate.exists_canMove_of_render hrender ⟨_, hsegment, hmove⟩ with
      ⟨other, hother, hcan⟩
    exact Bool.eq_false_iff.1 (hcells other hother) hcan

/-- A probed template keeps its paths if every placeholder has its cell to itself. -/
theorem keepsPaths_of_lone_holes {c : Client} {raw : String} {overrides : Query} {t : UrlTemplate}
    (h : c.IsProbed raw overrides) (ht : UrlTemplate.parse raw = .ok t)
    (hlone : ∀ cell ∈ t.path.cells,
      (∃ text : List Char, cell = text.map .char) ∨ ∃ name, cell = [.hole name]) :
    c.KeepsPaths raw overrides := by
  rcases h.exists_hasPlainText with ⟨t', ht', hplain⟩
  cases ht.symm.trans ht'
  refine (keepsPaths_iff hplain ht).2 ?_
  intro cell hcell
  rcases hlone cell hcell with ⟨text, rfl⟩ | ⟨name, rfl⟩
  · -- the text stood in the probe as well, and was left alone there
    rcases h with ⟨resolver, t', params, url, hresolver, ht', -, hurl, hkept⟩
    cases ht.symm.trans ht'
    have hprobe := (render_eq_url_path_iff hplain hresolver ht hurl).1 hkept _ hcell
    rw [PathTemplate.canMove_map_char]
    rwa [PathTemplate.fill_map_char] at hprobe
  · exact PathTemplate.canMove_hole name

theorem isProbed_of_normalize {c : Client} {raw : String} (overrides : Query) {t : UrlTemplate}
    (ht : UrlTemplate.parse raw = .ok t)
    (hself : normalize (fill (writtenOf fun _ => "x") (symbolsOf t.path.segments)) =
      fill (writtenOf fun _ => "x") (symbolsOf t.path.segments)) :
    c.IsProbed raw overrides := by
  have hholes : PathTemplate.holes (symbolsOf t.path.segments) ⊆ t.path.placeholders := by
    rw [PathTemplate.holes_symbolsOf]
    exact List.Subset.refl _
  rcases PathTemplate.exists_render_bindings t.path (fun _ => "x") fun _ => rfl with
    ⟨path, hrender⟩
  rcases exists_target (c := c) reachable_default overrides ht hrender with ⟨url, hurl⟩
  rcases target_eq_ok reachable_default ht hurl with ⟨path', hrender', hpath⟩
  cases hrender.symm.trans hrender'
  have hfill : path.toList = fill (writtenOf fun _ => "x") (symbolsOf t.path.segments) := by
    rw [(PathTemplate.render_eq_ok_iff.1 hrender).2, PathTemplate.fill_bindings _ hholes]
  refine ⟨default, t, _, url, reachable_default, ht, ?_, hurl,
    (render_eq_path_iff hrender hpath).2 ?_⟩
  · intro name hname
    exact Dictionary.find?_ofList_map _ hname
  · rw [hfill]
    exact hself

/-! ## Two templates -/

/-- A client of one host. -/
def sample : Client where
  config := .new .https "api.example.com"
  base :=
    { scheme := .https
      username := ""
      password := none
      host := .name "api.example.com"
      port := none
      path := "/"
      query := none
      fragment := none }
  level := .none
  sink := .stderr

/-- A placeholder that has its cell to itself. -/
def userSegments : List Segment :=
  [.literal "/users/", .placeholder "id", .literal "/files"]

theorem parse_user :
    UrlTemplate.parse "/users/\x7bid\x7d/files" =
      .ok ⟨"/users/\x7bid\x7d/files", PathTemplate.build userSegments, .empty⟩ :=
  UrlTemplate.parse_of_canonical ⟨by decide, by decide, by decide, by decide, by decide⟩
    (by decide) (by decide)

/-- Two placeholders with two dots between them. -/
def comparisonSegments : List Segment :=
  [.literal "/compare/", .placeholder "base", .literal "..", .placeholder "head",
    .literal "/files"]

theorem parse_comparison :
    UrlTemplate.parse "/compare/\x7bbase\x7d..\x7bhead\x7d/files" =
      .ok ⟨"/compare/\x7bbase\x7d..\x7bhead\x7d/files", PathTemplate.build comparisonSegments,
        .empty⟩ :=
  UrlTemplate.parse_of_canonical ⟨by decide, by decide, by decide, by decide, by decide⟩
    (by decide) (by decide)

/-! ## The condition -/

/-- A call on a probed template has the rendered path exactly if no cell is filled up to a dot
segment, and all calls have it exactly if no cell can be. -/
theorem target_path_eq_iff {c : Client} {raw : String} {overrides : Query}
    (h : c.IsProbed raw overrides) :
    ∃ t, UrlTemplate.parse raw = .ok t ∧
      (∀ (resolver : Resolver) (params : PathParams) (url : Url), resolver.cache.Reachable →
        (c.target resolver raw params overrides).result = .ok url →
        (t.path.render params = .ok url.path ↔
          ∀ cell ∈ t.path.cells, isMove (fill (written params) cell) = false)) ∧
      (c.KeepsPaths raw overrides ↔ ∀ cell ∈ t.path.cells, canMove cell = false) := by
  rcases h.exists_hasPlainText with ⟨t, ht, hplain⟩
  refine ⟨t, ht, ?_, keepsPaths_iff hplain ht⟩
  intro resolver params url hresolver hurl
  exact render_eq_url_path_iff hplain hresolver ht hurl

theorem lone_placeholder_keepsPaths :
    sample.IsProbed "/users/\x7bid\x7d/files" .empty ∧
      sample.KeepsPaths "/users/\x7bid\x7d/files" .empty := by
  have hprobed : sample.IsProbed "/users/\x7bid\x7d/files" .empty :=
    isProbed_of_normalize .empty parse_user (by decide)
  refine ⟨hprobed, ?_⟩
  rcases target_path_eq_iff hprobed with ⟨t, ht, -, hkeeps⟩
  cases parse_user.symm.trans ht
  exact hkeeps.2 (by decide)

/-- Without the two names, the comparison is read as a move up. -/
theorem empty_values_move_target :
    sample.IsProbed "/compare/\x7bbase\x7d..\x7bhead\x7d/files" .empty ∧
      (∃ url, (sample.target default "/compare/\x7bbase\x7d..\x7bhead\x7d/files"
          (.ofList [("base", ""), ("head", "")]) .empty).result = .ok url ∧ url.path = "/files") ∧
      ¬ sample.KeepsPaths "/compare/\x7bbase\x7d..\x7bhead\x7d/files" .empty := by
  have hrender : (PathTemplate.build comparisonSegments).render
      (.ofList [("base", ""), ("head", "")]) = .ok "/compare/../files" := by
    decide
  rcases exists_target (c := sample) reachable_default .empty parse_comparison hrender with
    ⟨url, hurl⟩
  have hpath : url.path = "/files" := by
    rcases target_eq_ok reachable_default parse_comparison hurl with ⟨path, hrender', hpath⟩
    cases hrender.symm.trans hrender'
    rw [hpath]
    decide
  refine ⟨isProbed_of_normalize .empty parse_comparison (by decide), ⟨url, hurl, hpath⟩, ?_⟩
  intro hkeeps
  have hkept := hkeeps default _ _ url reachable_default parse_comparison hurl
  rw [hpath, hrender] at hkept
  exact absurd hkept (by decide)

end Client

end RestTemplates
