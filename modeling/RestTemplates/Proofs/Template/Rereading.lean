import RestTemplates.Proofs.Query
import RestTemplates.Proofs.Template.DotSegments
import RestTemplates.Proofs.Template.RawParts
import RestTemplates.Proofs.Url.Query

/-!
# Rereading — a rendered text is a template of its own

The text of a resolved path is a raw text again, so it can be given to a resolver in the place of a
template.  Nothing in it is taken for a part of the template language: the characters that cut a raw
text (`#`, `?`) or open a placeholder (braces) are escaped in every value, and the literals of a
template cannot hold them, because the raw text was cut and compiled before.

Only the path needs this care on all four characters.  A query may hold a `?`, as the cut is made at
the first one; it is the `#` that it must not hold.

This file defines:

* `UrlTemplate.IsInert`, the characters that mean nothing in a raw text.

It proves:

* `UrlTemplate.isInert_of_render`, a rendered path has no other characters,
* `UrlTemplate.parse_text`, what the text of such a path with a query is read as,
* `Resolver.rendered_text_fixpoint`, rendering that text gives the resolved path back.
-/

namespace RestTemplates

/-! ## Characters of raw texts -/

namespace UrlTemplate

/-- A character that neither cuts a raw text nor stands around a placeholder. -/
def IsInert (c : Char) : Prop := PathTemplate.isBrace c = false ∧ c ≠ '?' ∧ c ≠ '#'

/-- What may stand in a normalized path means nothing in a raw text. -/
theorem isInert_of_isPlain {c : Char} (h : UrlPath.IsPlain c) : IsInert c := by
  have hne : ∀ d, ¬ UrlPath.IsPlain d → c ≠ d := by
    intro d hd heq
    exact hd (heq ▸ h)
  have hbrace : PathTemplate.isBrace c = false := by
    simp [PathTemplate.isBrace, hne '\x7b' (by decide), hne '\x7d' (by decide)]
  exact ⟨hbrace, hne '?' (by decide), hne '#' (by decide)⟩

/-- The path of a raw text ends before its first `#` and before its first `?`. -/
theorem ne_of_mem_pathText {raw : String} {c : Char} (h : c ∈ (pathText raw).toList) :
    c ≠ '?' ∧ c ≠ '#' := by
  rw [pathText, String.toList_ofList] at h
  have hquestion : c ≠ '?' := by
    simpa using List.mem_takeWhile_imp h
  have htarget : c ∈ target raw := (List.takeWhile_sublist _).subset h
  have hhash : c ≠ '#' := by
    simpa using List.mem_takeWhile_imp htarget
  exact ⟨hquestion, hhash⟩

/-! ## Rendered paths -/

/-- The characters of the literals are characters of the text, and they are no braces. -/
theorem mem_textOf_of_char {segments : List Segment} (hvalid : ∀ s ∈ segments, s.Valid) {c : Char}
    (h : Symbol.char c ∈ PathTemplate.symbolsOf segments) :
    c ∈ (PathTemplate.textOf segments).toList ∧ PathTemplate.isBrace c = false := by
  induction segments with
  | nil =>
      cases h
  | cons s rest ih =>
      have hrest : ∀ t ∈ rest, t.Valid := fun t ht => hvalid t (List.mem_cons_of_mem _ ht)
      rw [PathTemplate.symbolsOf, List.flatMap_cons, List.mem_append] at h
      rcases h with hhere | hbehind
      · cases s with
        | literal text =>
            have hc : c ∈ text.toList := by
              simpa [Segment.symbols] using hhere
            have hplain : PathTemplate.isBrace c = false := hvalid _ List.mem_cons_self c hc
            exact ⟨by simp [hc], hplain⟩
        | placeholder name =>
            -- a placeholder is a hole and no character
            simp [Segment.symbols] at hhere
      · have htail := ih hrest hbehind
        cases s with
        | literal text =>
            exact ⟨by simp [htail.1], htail.2⟩
        | placeholder name =>
            exact ⟨by simp [htail.1], htail.2⟩

/-- A rendered path holds nothing that means something in a raw text. -/
theorem isInert_of_render {raw : String} {t : UrlTemplate} {params : PathParams} {path : String}
    (ht : parse raw = .ok t) (hrender : t.path.render params = .ok path) :
    ∀ c ∈ path.toList, IsInert c := by
  have hcompile : PathTemplate.compile (pathText raw) = .ok t.path := (parse_eq_ok_iff.1 ht).2.1
  rcases PathTemplate.exists_of_compile_eq_ok hcompile with ⟨segments, hcanonical, htext, hbuild⟩
  have hpath := (PathTemplate.render_eq_ok_iff.1 hrender).2
  rw [hbuild, PathTemplate.segments_build] at hpath
  intro c hc
  rw [hpath] at hc
  rcases List.mem_flatMap.1 hc with ⟨s, hs, hwritten⟩
  cases s with
  | char d =>
      -- a literal is a part of the path that was cut out of the raw text
      have heq : c = d := List.mem_singleton.1 hwritten
      have hliteral := mem_textOf_of_char hcanonical.valid (heq ▸ hs)
      rw [htext] at hliteral
      exact ⟨hliteral.2, ne_of_mem_pathText hliteral.1⟩
  | hole name =>
      -- a value is written with escapes for all of these characters
      exact isInert_of_isPlain (PathTemplate.isPlain_of_mem_encodeValue hwritten).1

/-! ## Texts of resolved paths -/

/-- A brace-free text compiles to the one literal that it is. -/
theorem compile_of_isInert {path : String} (h : ∀ c ∈ path.toList, IsInert c) :
    PathTemplate.compile path = .ok (PathTemplate.build [.literal path]) := by
  have hcanonical : PathTemplate.Canonical [.literal path] := {
    inhabited := List.cons_ne_nil _ _
    valid := by
      intro s hs
      rw [List.mem_singleton.1 hs]
      exact fun c hc => (h c hc).1
    distinct := List.nodup_nil
    apart := List.isChain_singleton _
    filled := fun hempty => (congrArg (fun s => [s]) (List.mem_singleton.1 hempty)).symm }
  have htext : PathTemplate.textOf [.literal path] = path := by
    rw [← String.toList_inj]
    simp
  have hcompile := PathTemplate.compile_textOf hcanonical
  rwa [htext] at hcompile

/-- The written query has no `#` in it. -/
theorem ne_hash_of_mem_encode {q : Query} {c : Char} (h : c ∈ q.encode.toList) : c ≠ '#' := by
  rintro rfl
  have hchar : Url.IsQueryChar '#' := Url.isQueryChar_of_mem_encode h
  exact absurd hchar (by decide)

/-- The text of a path with a query is cut into just these, whether the query is written or left
out because it is empty. -/
theorem parts_text {resolved : ResolvedPath} (h : ∀ c ∈ resolved.path.toList, IsInert c) :
    pathText resolved.text = resolved.path ∧ queryText resolved.text = resolved.query.encode := by
  have hfree : '?' ∉ resolved.path.toList ∧ '#' ∉ resolved.path.toList :=
    ⟨fun hc => (h _ hc).2.1 rfl, fun hc => (h _ hc).2.2 rfl⟩
  cases hempty : resolved.query.isEmpty with
  | true =>
      let parts : RawParts := ⟨resolved.path, none, none, hfree, nofun⟩
      have htext : resolved.text = parts.text := by
        simp [ResolvedPath.text, ResolvedPath.queryString?, hempty, parts, RawParts.text,
          RawParts.target]
      have hencode : resolved.query.encode = "" :=
        Query.encode_eq_empty_iff.2 (MultiMap.isEmpty_iff.1 hempty)
      rw [htext, hencode]
      exact ⟨parts.pathText_text, parts.queryText_text⟩
  | false =>
      have hhash : ∀ query ∈ some resolved.query.encode, '#' ∉ query.toList := by
        rintro _ ⟨⟩ hmem
        exact ne_hash_of_mem_encode hmem rfl
      let parts : RawParts := ⟨resolved.path, some resolved.query.encode, none, hfree, hhash⟩
      have htext : resolved.text = parts.text := by
        simp [ResolvedPath.text, ResolvedPath.queryString?, hempty, parts, RawParts.text,
          RawParts.target, String.append_assoc]
      rw [htext]
      exact ⟨parts.pathText_text, parts.queryText_text⟩

/-- The text of an inert path with a query is read as the path, in one literal, and the query. -/
theorem parse_text {resolved : ResolvedPath} (h : ∀ c ∈ resolved.path.toList, IsInert c) :
    parse resolved.text =
      .ok ⟨resolved.text, PathTemplate.build [.literal resolved.path], resolved.query⟩ := by
  have hparts := parts_text h
  refine parse_eq_ok_iff.2 ⟨rfl, ?_, ?_⟩
  · rw [hparts.1]
    exact compile_of_isInert h
  · rw [hparts.2]
    exact Query.parse_encode resolved.query

end UrlTemplate

/-! ## Rendering again -/

/-- A template of one literal is rendered as that literal, whatever is bound. -/
theorem PathTemplate.render_build_literal (path : String) (params : PathParams) :
    (build [.literal path]).render params = .ok path := by
  refine render_eq_ok_iff.2 ⟨?_, ?_⟩
  · intro name hname
    cases hname
  · rw [segments_build]
    simp [symbolsOf, Segment.symbols, fill_map_char]

namespace Resolver

/-- What a resolver has rendered is a static template as it stands, and every resolver renders it,
without values and under any policy, as the path and the query that it was made of. -/
theorem rendered_text_fixpoint {r : Resolver} (h : r.cache.Reachable) {raw : String}
    {params : PathParams} {overrides : Query} {policy : MergePolicy} {resolved : ResolvedPath}
    (hrender : (r.renderWith raw params overrides policy).result = .ok resolved) :
    ∀ other : Resolver, other.cache.Reachable →
      (∃ entry, (other.parse resolved.text).result = .ok entry ∧
        entry.template.path.isStatic = true) ∧
      ∀ again, (other.renderWith resolved.text .empty .empty again).result = .ok resolved := by
  rcases (renderWith_eq_ok_iff h).1 hrender with ⟨t, path, ht, hpath, hresolved⟩
  have hinert : ∀ c ∈ resolved.path.toList, UrlTemplate.IsInert c := by
    rw [hresolved]
    exact UrlTemplate.isInert_of_render ht hpath
  have hparse := UrlTemplate.parse_text hinert
  intro other hother
  constructor
  · rcases exists_parse_eq_ok hother hparse with ⟨entry, hentry, htemplate⟩
    refine ⟨entry, hentry, ?_⟩
    rw [htemplate]
    rfl
  · intro again
    have hpath : (PathTemplate.build [.literal resolved.path]).render .empty = .ok resolved.path :=
      PathTemplate.render_build_literal resolved.path .empty
    exact (renderWith_eq_ok_iff hother).2 ⟨_, _, hparse, hpath, rfl⟩

/-- A file whose name is made of characters that would mean something. -/
theorem awkward_name_fixpoint :
    ∃ resolved,
      ((default : Resolver).renderWith "/files/\x7bname\x7d?tag=a"
        (.ofList [("name", "\x7ba\x7d?#")]) (.ofPairs [("q", "x#y")]) .append).result =
          .ok resolved ∧
      resolved.text = "/files/%7Ba%7D%3F%23?q=x%23y&tag=a" ∧
      ((ofPolicy .append).renderWith resolved.text .empty .empty .replace).result =
        .ok resolved := by
  have hparse : UrlTemplate.parse "/files/\x7bname\x7d?tag=a" =
      .ok ⟨"/files/\x7bname\x7d?tag=a",
        PathTemplate.build [.literal "/files/", .placeholder "name"], .ofPairs [("tag", "a")]⟩ :=
    UrlTemplate.parse_of_parts ⟨by decide, by decide, by decide, by decide, by decide⟩
      (by decide) (by decide +kernel)
  have hpath : (PathTemplate.build [.literal "/files/", .placeholder "name"]).render
      (.ofList [("name", "\x7ba\x7d?#")]) = .ok "/files/%7Ba%7D%3F%23" := by
    decide +kernel
  have hnew : (default : Resolver).cache.Reachable := Client.reachable_default
  have hrender : ((default : Resolver).renderWith "/files/\x7bname\x7d?tag=a"
      (.ofList [("name", "\x7ba\x7d?#")]) (.ofPairs [("q", "x#y")]) .append).result =
        .ok ⟨"/files/%7Ba%7D%3F%23",
          Query.merge .append (.ofPairs [("tag", "a")]) (.ofPairs [("q", "x#y")])⟩ :=
    (renderWith_eq_ok_iff hnew).2 ⟨_, _, hparse, hpath, rfl⟩
  refine ⟨_, hrender, by decide +kernel, ?_⟩
  exact (rendered_text_fixpoint hnew hrender (ofPolicy .append) ⟨[], rfl⟩).2 .replace

end Resolver

end RestTemplates
