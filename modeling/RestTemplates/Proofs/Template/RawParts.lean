import RestTemplates.Proofs.SplitOn
import RestTemplates.Proofs.Template.Faults

/-!
# Raw parts — a raw text as a path, a query and a fragment

A raw text is a path, then perhaps a query behind a question mark, then perhaps a fragment behind a
hash sign.  No mark of a part stands in a part before it, so every text is put together in one way
only, however many marks there are and wherever they stand.  Reading needs the path and the query;
the fragment only makes a text a different one, which has a place of its own in a cache.

This file defines:

* `RawParts` and `RawParts.text`, the parts and the text that they make,
* `RawParts.withFragment`, the same path and query with another fragment.

It proves:

* `RawParts.text_bijective`, every text has its parts,
* `RawParts.parse_eq_ok_iff` and `RawParts.parse_eq_error_iff`, how they are read,
* `Resolver.exists_get?_parse`, what a look-up leaves in the cache,
* `RawParts.read_in_parts`, all of this together.
-/

namespace RestTemplates

open Fallible

/-! ## Parts -/

/-- The parts of a raw text, without the marks before the query and before the fragment. -/
@[ext] structure RawParts where
  path : String
  query? : Option String
  fragment? : Option String
  path_free : '?' ∉ path.toList ∧ '#' ∉ path.toList
  query_free : ∀ query ∈ query?, '#' ∉ query.toList

namespace RawParts

/-- The text of the query, empty where there is none. -/
def query (parts : RawParts) : String := parts.query?.getD ""

/-- The path with its query. -/
def target (parts : RawParts) : String := parts.path ++ parts.query?.elim "" ("?" ++ ·)

def text (parts : RawParts) : String := parts.target ++ parts.fragment?.elim "" ("#" ++ ·)

/-- The same path and query with another fragment, or with none. -/
def withFragment (parts : RawParts) (fragment? : Option String) : RawParts :=
  { parts with fragment? }

@[simp] theorem path_withFragment (parts : RawParts) (fragment? : Option String) :
    (parts.withFragment fragment?).path = parts.path := rfl

@[simp] theorem query_withFragment (parts : RawParts) (fragment? : Option String) :
    (parts.withFragment fragment?).query = parts.query := rfl

/-- The path ends at the first question mark. -/
theorem cutAt_target (parts : RawParts) :
    CutAt '?' parts.target.toList parts.path.toList (parts.query?.map String.toList) := by
  refine ⟨parts.path_free.1, ?_⟩
  rw [target]
  cases parts.query? <;> simp

/-- Path and query end at the first hash sign. -/
theorem cutAt_text (parts : RawParts) :
    CutAt '#' parts.text.toList parts.target.toList (parts.fragment?.map String.toList) := by
  refine ⟨?_, ?_⟩
  · rw [target]
    cases hquery : parts.query? with
    | none => simpa using parts.path_free.2
    | some query => simpa using And.intro parts.path_free.2 (parts.query_free query hquery)
  · rw [text]
    cases parts.fragment? <;> simp

theorem text_injective : Function.Injective text := by
  intro parts parts' h
  -- a cut can be made in one way only, first the one for the fragment and then the one before it
  have hoption : Function.Injective (Option.map String.toList) :=
    Option.map_injective fun _ _ => String.toList_inj.1
  obtain ⟨htarget, hfragment⟩ := (h ▸ parts.cutAt_text).unique parts'.cutAt_text
  obtain ⟨hpath, hquery⟩ := (htarget ▸ parts.cutAt_target).unique parts'.cutAt_target
  exact RawParts.ext (String.toList_inj.1 hpath) (hoption hquery) (hoption hfragment)

theorem text_surjective : Function.Surjective text := by
  intro raw
  obtain ⟨target, fragment?, hraw⟩ := CutAt.exists_parts '#' raw.toList
  obtain ⟨path, query?, htarget⟩ := CutAt.exists_parts '?' target
  -- no part of the target has a hash sign in it
  have hhash : '#' ∉ path ++ query?.elim [] ('?' :: ·) := htarget.parts ▸ hraw.free
  have hpath : '?' ∉ (String.ofList path).toList ∧ '#' ∉ (String.ofList path).toList := by
    rw [String.toList_ofList]
    exact ⟨htarget.free, fun hc => hhash (List.mem_append_left _ hc)⟩
  have hquery : ∀ query ∈ query?.map String.ofList, '#' ∉ query.toList := by
    intro query hmem
    obtain ⟨cs, rfl, rfl⟩ := Option.map_eq_some_iff.1 hmem
    rw [String.toList_ofList]
    intro hc
    exact hhash (List.mem_append_right _ (List.mem_cons_of_mem _ hc))
  refine ⟨⟨String.ofList path, query?.map String.ofList, fragment?.map String.ofList, hpath,
    hquery⟩, ?_⟩
  rw [← String.toList_inj, hraw.parts, htarget.parts]
  cases query? <;> cases fragment? <;> simp [text, RawParts.target]

/-- Every text has its parts. -/
theorem text_bijective : Function.Bijective text := ⟨text_injective, text_surjective⟩

/-! ## Reading -/

theorem pathText_text (parts : RawParts) : UrlTemplate.pathText parts.text = parts.path := by
  rw [UrlTemplate.pathText, UrlTemplate.target, parts.cutAt_text.span_eq.1,
    parts.cutAt_target.span_eq.1, String.ofList_toList]

theorem queryText_text (parts : RawParts) : UrlTemplate.queryText parts.text = parts.query := by
  rw [UrlTemplate.queryText, UrlTemplate.target, parts.cutAt_text.span_eq.1,
    parts.cutAt_target.drop_one_eq, query]
  cases parts.query? with
  | none => rfl
  | some query => exact String.ofList_toList

theorem parse_eq_ok_iff {parts : RawParts} {t : UrlTemplate} :
    UrlTemplate.parse parts.text = .ok t ↔
      t.raw = parts.text ∧ PathTemplate.compile parts.path = .ok t.path ∧
        Query.parse parts.query = .ok t.query := by
  rw [UrlTemplate.parse_eq_ok_iff, pathText_text, queryText_text]

/-- The query is read only if the path was. -/
theorem parse_eq_error_iff {parts : RawParts} {e : TemplateError} :
    UrlTemplate.parse parts.text = .error e ↔
      PathTemplate.compile parts.path = .error e ∨
        (∃ path, PathTemplate.compile parts.path = .ok path) ∧
          Query.parse parts.query = .error e := by
  rw [UrlTemplate.parse, pathText_text, queryText_text]
  cases PathTemplate.compile parts.path with
  | error failure => simp [bind, Except.bind]
  | ok path =>
      cases Query.parse parts.query with
      | error failure => simp [bind, Except.bind]
      | ok query => simp [bind, Except.bind, pure, Except.pure]

/-- The fragment is no part of what is read, except that the raw text has it. -/
theorem parse_withFragment (parts : RawParts) (fragment? : Option String) :
    UrlTemplate.parse (parts.withFragment fragment?).text =
      (UrlTemplate.parse parts.text).map fun t =>
        { t with raw := (parts.withFragment fragment?).text } := by
  rw [UrlTemplate.parse, UrlTemplate.parse, pathText_text, queryText_text, pathText_text,
    queryText_text, path_withFragment, query_withFragment]
  cases PathTemplate.compile parts.path with
  | error failure => rfl
  | ok path => cases Query.parse parts.query <;> rfl

end RawParts

/-- A template has the text that it was compiled from. -/
theorem PathTemplate.text_of_compile {raw : String} {t : PathTemplate} (h : compile raw = .ok t) :
    t.text = raw := by
  obtain ⟨segments, -, htext, rfl⟩ := exists_of_compile_eq_ok h
  rw [text_build, htext]

/-! ## Looking up -/

namespace TemplateCache

/-- What a look-up gives is in the cache behind it. -/
theorem get?_resolve {cache : TemplateCache} {raw : String} {entry : Entry}
    (h : (cache.resolve raw).result = .ok entry) :
    (cache.resolve raw).cache.get? raw = some entry := by
  rcases resolve_cases cache raw with
    ⟨found, hget, hres⟩ | ⟨e, -, -, hres⟩ | ⟨template, -, -, hresult, hcache⟩
  · rw [hres] at h ⊢
    cases h
    exact hget
  · rw [hres] at h
    cases h
  · rw [hresult] at h
    cases h
    rw [hcache, get?, Dictionary.find?_insert, if_pos rfl]

/-- Each text has an entry of its own. -/
theorem Reachable.id_eq_iff {cache : TemplateCache} (h : cache.Reachable) {raw raw' : String}
    {entry entry' : Entry} (hget : cache.get? raw = some entry)
    (hget' : cache.get? raw' = some entry') : entry.id = entry'.id ↔ raw = raw' := by
  obtain ⟨ops, rfl⟩ := h
  have hreflects := reflects_run ops
  exact (hreflects.id_eq_iff (hreflects.logged.1 hget) (hreflects.logged.1 hget')).1

end TemplateCache

namespace Resolver

variable {r : Resolver} {raw : String}

/-- What cannot be read is reported with the whole text. -/
theorem parse_eq_error (h : r.cache.Reachable) {e : TemplateError}
    (he : UrlTemplate.parse raw = .error e) : (r.parse raw).result = .error ⟨raw, e⟩ := by
  have hresolve := h.map_template_resolve raw
  rw [he, map_eq_error_iff] at hresolve
  rw [parse, hresolve]
  rfl

theorem renderWith_eq_error (h : r.cache.Reachable) {e : TemplateError}
    (he : UrlTemplate.parse raw = .error e) (params : PathParams) (overrides : Query)
    (policy : MergePolicy) :
    (r.renderWith raw params overrides policy).result = .error ⟨raw, e⟩ := by
  rw [renderWith_result h, he]
  rfl

/-- So is what cannot be rendered. -/
theorem renderWith_eq_error_of_render (h : r.cache.Reachable) {t : UrlTemplate}
    (ht : UrlTemplate.parse raw = .ok t) {params : PathParams} {e : TemplateError}
    (he : t.path.render params = .error e) (overrides : Query) (policy : MergePolicy) :
    (r.renderWith raw params overrides policy).result = .error ⟨raw, e⟩ := by
  have hfill : fill t params overrides policy = .error e := map_eq_error_iff.2 he
  rw [renderWith_result h, ht]
  exact mapError_eq_error_iff.2 ⟨e, hfill, rfl⟩

/-- What a text reads as is in the cache as soon as it was looked up, and it stays there. -/
theorem exists_get?_parse (h : r.cache.Reachable) {t : UrlTemplate}
    (ht : UrlTemplate.parse raw = .ok t) :
    ∃ entry, entry.template = t ∧ (r.parse raw).resolver.cache.get? raw = some entry ∧
      ∀ other, ((r.parse raw).resolver.parse other).resolver.cache.get? raw = some entry := by
  obtain ⟨entry, hentry, htemplate⟩ := exists_parse_eq_ok h ht
  have hget : (r.parse raw).resolver.cache.get? raw = some entry :=
    TemplateCache.get?_resolve (mapError_eq_ok_iff.1 hentry)
  exact ⟨entry, htemplate, hget, fun other => TemplateCache.get?_step (.resolve other) hget⟩

/-- Two texts that can be read have two entries, even if they read as the same. -/
theorem exists_distinct_entries (h : r.cache.Reachable) {raw' : String} (hne : raw ≠ raw')
    {t t' : UrlTemplate} (ht : UrlTemplate.parse raw = .ok t)
    (ht' : UrlTemplate.parse raw' = .ok t') :
    let both := ((r.parse raw).resolver.parse raw').resolver.cache
    ∃ entry entry', both.get? raw = some entry ∧ both.get? raw' = some entry' ∧
      entry.template = t ∧ entry'.template = t' ∧ entry.id ≠ entry'.id := by
  have honce : (r.parse raw).resolver.cache.Reachable := h.resolve raw
  obtain ⟨entry, htemplate, -, hkept⟩ := exists_get?_parse h ht
  obtain ⟨entry', htemplate', hget', -⟩ := exists_get?_parse honce ht'
  refine ⟨entry, entry', hkept raw', hget', htemplate, htemplate', ?_⟩
  exact mt ((honce.resolve raw').id_eq_iff (hkept raw') hget').1 hne

end Resolver

namespace RawParts

/-- Texts that differ in the fragment are rendered alike, or fail alike but for the text told. -/
theorem renderWith_withFragment {r r' : Resolver} (h : r.cache.Reachable)
    (h' : r'.cache.Reachable) (parts : RawParts) (fragment? : Option String) (params : PathParams)
    (overrides : Query) (policy : MergePolicy) :
    (r'.renderWith (parts.withFragment fragment?).text params overrides policy).result =
      (r.renderWith parts.text params overrides policy).result.mapError fun e =>
        { e with template := (parts.withFragment fragment?).text } := by
  rw [Resolver.renderWith_result h', Resolver.renderWith_result h, parse_withFragment]
  cases UrlTemplate.parse parts.text with
  | error e => rfl
  | ok t =>
      have hfill : Resolver.fill { t with raw := (parts.withFragment fragment?).text } params
          overrides policy = Resolver.fill t params overrides policy := rfl
      rw [Except.map, Except.bind, Except.bind, hfill]
      cases Resolver.fill t params overrides policy <;> rfl

theorem text_withFragment_ne {parts : RawParts} {fragment? : Option String}
    (h : fragment? ≠ parts.fragment?) : parts.text ≠ (parts.withFragment fragment?).text := by
  intro htext
  exact h (congrArg RawParts.fragment? (text_injective htext)).symm

/-- Every text is made of its parts in one way.  It can be read if its path compiles and its query
can be read; the template has the text of the path, and a fault of the path comes before any fault
of the query.  A resolver reports either fault with the whole text, and so it does when values are
missing, but then the template is in the cache.  Another fragment changes neither what is read nor
what is rendered, but it makes a text with an entry of its own. -/
theorem read_in_parts :
    Function.Bijective text ∧
    ∀ parts : RawParts,
      (∀ t, UrlTemplate.parse parts.text = .ok t ↔
        t.raw = parts.text ∧ PathTemplate.compile parts.path = .ok t.path ∧
          Query.parse parts.query = .ok t.query) ∧
      (∀ t, UrlTemplate.parse parts.text = .ok t → t.path.text = parts.path) ∧
      (∀ e, UrlTemplate.parse parts.text = .error e ↔
        PathTemplate.compile parts.path = .error e ∨
          (∃ path, PathTemplate.compile parts.path = .ok path) ∧
            Query.parse parts.query = .error e) ∧
      ∀ r : Resolver, r.cache.Reachable →
        (∀ e, UrlTemplate.parse parts.text = .error e →
          (r.parse parts.text).result = .error ⟨parts.text, e⟩ ∧
          ∀ params overrides policy,
            (r.renderWith parts.text params overrides policy).result =
              .error ⟨parts.text, e⟩) ∧
        (∀ t params e, UrlTemplate.parse parts.text = .ok t → t.path.render params = .error e →
          ∀ overrides policy,
            let rendered := r.renderWith parts.text params overrides policy
            rendered.result = .error ⟨parts.text, e⟩ ∧
              ∃ entry, rendered.resolver.cache.get? parts.text = some entry ∧
                entry.template = t) ∧
        ∀ fragment?,
          let other := parts.withFragment fragment?
          (UrlTemplate.parse other.text =
            (UrlTemplate.parse parts.text).map fun t => { t with raw := other.text }) ∧
          (∀ r' : Resolver, r'.cache.Reachable → ∀ params overrides policy,
            (r'.renderWith other.text params overrides policy).result =
              (r.renderWith parts.text params overrides policy).result.mapError fun e =>
                { e with template := other.text }) ∧
          (fragment? ≠ parts.fragment? → ∀ t, UrlTemplate.parse parts.text = .ok t →
            let both := ((r.parse parts.text).resolver.parse other.text).resolver.cache
            ∃ entry entry', both.get? parts.text = some entry ∧
              both.get? other.text = some entry' ∧ entry.template = t ∧
              entry'.template = { t with raw := other.text } ∧ entry.id ≠ entry'.id) := by
  refine ⟨text_bijective, fun parts => ⟨?_, ?_, ?_, ?_⟩⟩
  · intro t
    exact parse_eq_ok_iff
  · intro t ht
    exact PathTemplate.text_of_compile (parse_eq_ok_iff.1 ht).2.1
  · intro e
    exact parse_eq_error_iff
  · intro r h
    refine ⟨?_, ?_, ?_⟩
    · intro e he
      exact ⟨Resolver.parse_eq_error h he, Resolver.renderWith_eq_error h he⟩
    · intro t params e ht he overrides policy
      obtain ⟨entry, htemplate, hget, -⟩ := Resolver.exists_get?_parse h ht
      exact ⟨Resolver.renderWith_eq_error_of_render h ht he overrides policy, entry, hget,
        htemplate⟩
    · intro fragment? other
      refine ⟨parse_withFragment parts fragment?, ?_, ?_⟩
      · intro r' h'
        exact renderWith_withFragment h h' parts fragment?
      · intro hne t ht both
        have ht' : UrlTemplate.parse other.text = .ok { t with raw := other.text } := by
          rw [parse_withFragment, ht]
          rfl
        exact Resolver.exists_distinct_entries h (text_withFragment_ne hne) ht ht'

/-- A second question mark belongs to the query, and all behind the first hash sign is left out. -/
def fileParts : RawParts where
  path := "/files/\x7bname\x7d"
  query? := some "tag=a?b"
  fragment? := some "top?x#y"
  path_free := by decide
  query_free := by decide

/-- A question mark ends the path within a placeholder as well. -/
def brokenParts : RawParts where
  path := "/\x7ba"
  query? := some "b\x7d=%zz"
  fragment? := none
  path_free := by decide
  query_free := by decide

/-- A text that can be read but, without a value for the name, not rendered; its entry and the one
of the text without the fragment; and a text of which the path decides. -/
theorem file_read_in_parts :
    fileParts.text = "/files/\x7bname\x7d?tag=a?b#top?x#y" ∧
    brokenParts.text = "/\x7ba?b\x7d=%zz" ∧
    (∃ t, UrlTemplate.parse fileParts.text = .ok t ∧ t.path.text = "/files/\x7bname\x7d" ∧
      t.query = .ofPairs [("tag", "a?b")]) ∧
    (∃ entry,
      let rendered := (default : Resolver).renderWith fileParts.text .empty .empty .replace
      rendered.result = .error ⟨fileParts.text, .missingParameter "name"⟩ ∧
        rendered.resolver.cache.get? fileParts.text = some entry) ∧
    (∃ entry entry',
      let other := (fileParts.withFragment none).text
      let both := (((default : Resolver).parse fileParts.text).resolver.parse other).resolver.cache
      both.get? fileParts.text = some entry ∧ both.get? other = some entry' ∧
        entry.id ≠ entry'.id) ∧
    ((default : Resolver).parse brokenParts.text).result =
      .error ⟨brokenParts.text, .malformedTemplate "/\x7ba" 1 .unterminatedPlaceholder⟩ := by
  obtain ⟨-, hparts⟩ := read_in_parts
  obtain ⟨hok, htext, -, hlooked⟩ := hparts fileParts
  obtain ⟨-, hrendered, hother⟩ := hlooked default Client.reachable_default
  have hcanonical : PathTemplate.Canonical [.literal "/files/", .placeholder "name"] :=
    ⟨by decide, by decide, by decide, by decide, by decide⟩
  have hcompile : PathTemplate.compile fileParts.path =
      .ok (PathTemplate.build [.literal "/files/", .placeholder "name"]) :=
    PathTemplate.compile_textOf hcanonical
  have hquery : Query.parse fileParts.query = .ok (.ofPairs [("tag", "a?b")]) := by
    decide +kernel
  have hparse := (hok ⟨_, _, _⟩).2 ⟨rfl, hcompile, hquery⟩
  have hmissing : (PathTemplate.build [.literal "/files/", .placeholder "name"]).render .empty =
      .error (.missingParameter "name") := by
    decide +kernel
  obtain ⟨hresult, entry, hget, -⟩ := hrendered _ _ _ hparse hmissing .empty .replace
  obtain ⟨-, -, hapart⟩ := hother none
  obtain ⟨first, second, hfirst, hsecond, -, -, hid⟩ := hapart (by decide) _ hparse
  obtain ⟨-, -, herror, hbroken⟩ := hparts brokenParts
  have hslash : PathTemplate.Reduced [.literal "/"] := ⟨by decide, by decide, by decide, trivial⟩
  obtain ⟨front, hfront, -⟩ := PathTemplate.compile_of_reduced hslash (by decide)
  have hplain : ∀ c ∈ ['a'], PathTemplate.isBrace c = false := List.forall_mem_singleton.2 rfl
  have hcuts : PathTemplate.FaultCut.Cuts ⟨"/", "\x7ba", .unterminatedPlaceholder, 0⟩ "/\x7ba" :=
    ⟨by decide, front, hfront, .unterminated hplain⟩
  have hreported := (hbroken default Client.reachable_default).1 _
    ((herror _).2 (.inl (PathTemplate.compile_of_cuts hcuts)))
  exact ⟨by decide, by decide, ⟨_, hparse, htext _ hparse, rfl⟩, ⟨entry, hresult, hget⟩,
    ⟨first, second, hfirst, hsecond, hid⟩, hreported.1⟩

end RawParts

end RestTemplates
