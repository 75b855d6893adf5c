import RestTemplates.Proofs.Client.Building
import RestTemplates.Proofs.Template.CacheHistory
import RestTemplates.Proofs.Template.Substitution

/-!
# Template faults — where a text stops being a template

A text that does not compile has a longest front that does, in the sense that matters here: it can
be cut in one way only into a template text and a rest that begins with a fault.  The error speaks
of this fault.  Its offset counts bytes up to one brace, and since the path stands at the front of
a raw text, the offset leads to the same brace there.

This file defines:

* `PathFault.brace`, the brace at which a fault shows,
* `PathTemplate.FaultCut`, a text cut before a fault,
* `HasCharAt`, a character of a text and the number of bytes before it.

It proves:

* `compile_of_cuts` and `exists_cuts_of_compile`, the error of a text and its cut,
* `FaultCut.Cuts.eq`, there is no other cut,
* `UrlTemplate.hasCharAt_of_parse`, the offset in the raw text,
* `faults_leftmost`, all of this together, however the raw text is looked up.
-/

namespace RestTemplates

open Fallible

/-! ## Offsets in bytes -/

/-- A text has a character behind so many bytes. -/
def HasCharAt (text : String) (offset : Nat) (c : Char) : Prop :=
  ∃ before after : String, before.utf8ByteSize = offset ∧
    text = before ++ String.singleton c ++ after

/-- Text that is added at the end moves nothing. -/
theorem HasCharAt.append {text : String} {offset : Nat} {c : Char} (h : HasCharAt text offset c)
    (tail : String) : HasCharAt (text ++ tail) offset c := by
  obtain ⟨before, after, hlength, rfl⟩ := h
  exact ⟨before, after ++ tail, hlength, String.append_assoc⟩

namespace PathTemplate

theorem byteLength_toList (text : String) : byteLength text.toList = text.utf8ByteSize := by
  have h (cs : List Char) : byteLength cs = (String.ofList cs).utf8ByteSize := by
    induction cs with
    | nil => rfl
    | cons c cs ih =>
        rw [byteLength, ih, String.ofList_cons, String.utf8ByteSize_append,
          String.utf8ByteSize_singleton]
  rw [h, String.ofList_toList]

/-- Two fronts of one text with the same number of bytes are the same. -/
theorem eq_of_byteLength_eq {front front' back back' : List Char}
    (happend : front ++ back = front' ++ back') (hlength : byteLength front = byteLength front') :
    front = front' := by
  -- one of the two goes on behind the other, by characters that would count
  have hnil (cs ds : List Char) (h : byteLength cs = byteLength (cs ++ ds)) : ds = [] := by
    cases ds with
    | nil => rfl
    | cons d ds =>
        have hpos := Char.utf8Size_pos d
        rw [byteLength_append, byteLength] at h
        omega
  rcases List.append_eq_append_iff.1 happend with ⟨more, rfl, -⟩ | ⟨more, rfl, -⟩
  · rw [hnil front more hlength, List.append_nil]
  · rw [hnil front' more hlength.symm, List.append_nil]

end PathTemplate

/-! ## The brace of a fault -/

namespace PathFault

open PathTemplate (isBrace byteLength)

/-- The brace at which a fault shows. -/
def brace : PathFault → Char
  | .unmatchedClosingBrace => '\x7d'
  | _ => '\x7b'

/-- A fault shows at the start of the rest, but for a nested brace, which shows behind the brace
that it is nested in. -/
def Skips : PathFault → List Char → Prop
  | .nestedBrace, skipped => ∃ name, skipped = '\x7b' :: name ∧ ∀ c ∈ name, isBrace c = false
  | _, skipped => skipped = []

theorem Begins.exists_skipped {names : List String} {fault : PathFault} {rest : List Char}
    {shift : Nat} (h : fault.Begins names rest shift) :
    ∃ skipped after, rest = skipped ++ fault.brace :: after ∧ byteLength skipped = shift ∧
      fault.Skips skipped := by
  cases h with
  | closing rest => exact ⟨[], rest, rfl, rfl, rfl⟩
  | @unterminated name hplain => exact ⟨[], name, rfl, rfl, rfl⟩
  | unnamed rest => exact ⟨[], _, rfl, rfl, rfl⟩
  | taken hvalid hused rest => exact ⟨[], _, rfl, rfl, rfl⟩
  | @nested name hplain rest => exact ⟨'\x7b' :: name, rest, rfl, rfl, name, rfl, hplain⟩

/-- What is skipped starts at the last brace of the text before the fault. -/
theorem Skips.eq {fault : PathFault} {front front' skipped skipped' : List Char}
    (h : fault.Skips skipped) (h' : fault.Skips skipped')
    (happend : front ++ skipped = front' ++ skipped') : front = front' := by
  cases fault with
  | nestedBrace =>
      obtain ⟨name, rfl, hplain⟩ := h
      obtain ⟨name', rfl, hplain'⟩ := h'
      -- were one front the longer, its last brace would stand within the other's name
      have hbrace : isBrace '\x7b' = true := rfl
      rcases List.append_eq_append_iff.1 happend with ⟨more, rfl, hmore⟩ | ⟨more, rfl, hmore⟩
      · cases more with
        | nil => rw [List.append_nil]
        | cons c more =>
            rw [List.cons_append, List.cons.injEq] at hmore
            have hmem : '\x7b' ∈ name := by
              rw [hmore.2]
              simp
            cases (hplain _ hmem).symm.trans hbrace
      · cases more with
        | nil => rw [List.append_nil]
        | cons c more =>
            rw [List.cons_append, List.cons.injEq] at hmore
            have hmem : '\x7b' ∈ name' := by
              rw [hmore.2]
              simp
            cases (hplain' _ hmem).symm.trans hbrace
  | _ =>
      cases h
      cases h'
      simpa using happend

end PathFault

/-! ## Cuts -/

namespace PathTemplate

/-- A text cut before a fault. -/
structure FaultCut where
  before : String
  rest : String
  fault : PathFault
  /-- The number of bytes between the cut and the brace at which the fault shows. -/
  shift : Nat
  deriving DecidableEq

namespace FaultCut

/-- The number of bytes before the brace at which the fault shows. -/
def offset (cut : FaultCut) : Nat := cut.before.utf8ByteSize + cut.shift

/-- The cut of a text into a text that compiles and a rest with a fault. -/
structure Cuts (cut : FaultCut) (raw : String) : Prop where
  parts : cut.before ++ cut.rest = raw
  begins : ∃ t, compile cut.before = .ok t ∧
    cut.fault.Begins t.placeholders cut.rest.toList cut.shift

end FaultCut

theorem exists_reduced_of_compile {raw : String} {t : PathTemplate} (h : compile raw = .ok t) :
    ∃ segments, Reduced segments ∧ (namesOf segments).Nodup ∧ textOf segments = raw ∧
      t.placeholders = namesOf segments := by
  obtain ⟨segments, hcanonical, htext, rfl⟩ := exists_of_compile_eq_ok h
  have hnames : (build segments).placeholders = namesOf segments := by
    rw [placeholders, segments_build, namesOf]
  rcases canonical_iff.1 hcanonical with rfl | ⟨-, hred, hnodup⟩
  · -- the one literal of the empty text may as well be left out
    exact ⟨[], trivial, List.nodup_nil, htext, hnames⟩
  · exact ⟨segments, hred, hnodup, htext, hnames⟩

theorem compile_of_reduced {segments : List Segment} (hred : Reduced segments)
    (hnodup : (namesOf segments).Nodup) :
    ∃ t, compile (textOf segments) = .ok t ∧ t.placeholders = namesOf segments := by
  by_cases hnil : segments = []
  · subst hnil
    have hempty : Canonical [.literal ""] := canonical_iff.2 (.inl rfl)
    have htext : textOf [] = textOf [.literal ""] := by
      rw [← String.toList_inj]
      simp
    rw [htext]
    exact ⟨_, compile_textOf hempty, rfl⟩
  · refine ⟨_, compile_textOf (canonical_iff.2 (.inr ⟨hnil, hred, hnodup⟩)), ?_⟩
    rw [placeholders, segments_build, namesOf]

/-- The fault of a cut is reported, at the brace where it shows. -/
theorem compile_of_cuts {cut : FaultCut} {raw : String} (h : cut.Cuts raw) :
    compile raw = .error (.malformedTemplate raw cut.offset cut.fault) := by
  obtain ⟨t, ht, hbegins⟩ := h.begins
  obtain ⟨segments, hred, hnodup, htext, hnames⟩ := exists_reduced_of_compile ht
  rw [hnames] at hbegins
  have hraw : raw.toList = (textOf segments).toList ++ cut.rest.toList := by
    rw [← h.parts, String.toList_append, htext]
  have hindex : ∀ name ∈ namesOf segments, (build segments).names.contains name = true :=
    fun name hname => (contains_names_build hnodup name).2 hname
  -- the front is read as its segments, and behind these the fault is met
  have hread := scan_textOf_append 0 [] hred hnodup (isBrace_of_begins hbegins)
  have hscan : scan 0 empty raw.toList = .error (cut.offset, cut.fault) := by
    calc scan 0 empty raw.toList
        = scan 0 (build []) ((textOf segments).toList ++ cut.rest.toList) := by rw [hraw]; rfl
      _ = scan (0 + byteLength (textOf segments).toList) (build ([] ++ segments))
            cut.rest.toList := hread
      _ = .error (0 + byteLength (textOf segments).toList + cut.shift, cut.fault) :=
            scan_of_begins hbegins hindex _
      _ = .error (cut.offset, cut.fault) := by
            rw [htext, byteLength_toList, Nat.zero_add, FaultCut.offset]
  rw [compile, hscan]

/-- A text that does not compile can be cut before a fault. -/
theorem exists_cuts_of_compile {raw : String} {e : TemplateError} (h : compile raw = .error e) :
    ∃ cut : FaultCut, cut.Cuts raw := by
  obtain ⟨segments, rest, hred, hnodup, htext, hend⟩ := exists_cut [] raw.toList List.nodup_nil
  obtain ⟨t, ht, hnames⟩ := compile_of_reduced hred hnodup
  rcases hend with rfl | ⟨fault, shift, hbegins⟩
  · -- without a rest the whole text would compile
    rw [List.append_nil] at htext
    rw [String.toList_inj.1 htext, h] at ht
    cases ht
  · refine ⟨⟨textOf segments, String.ofList rest, fault, shift⟩, ?_, t, ht, ?_⟩
    · rw [← String.toList_inj, String.toList_append, String.toList_ofList, htext]
    · rw [hnames, String.toList_ofList]
      exact hbegins

/-- The error tells fault and offset, and these two leave one place for the cut. -/
theorem FaultCut.Cuts.eq {cut other : FaultCut} {raw : String} (h : cut.Cuts raw)
    (h' : other.Cuts raw) : cut = other := by
  have herror := (compile_of_cuts h).symm.trans (compile_of_cuts h')
  rw [Except.error.injEq, TemplateError.malformedTemplate.injEq] at herror
  obtain ⟨-, hoffset, hfault⟩ := herror
  obtain ⟨before, rest, fault, shift⟩ := cut
  obtain ⟨before', rest', fault', shift'⟩ := other
  have hsame : fault = fault' := hfault
  subst hsame
  obtain ⟨t, -, hbegins⟩ := h.begins
  obtain ⟨t', -, hbegins'⟩ := h'.begins
  obtain ⟨skipped, after, hrest, hshift, hskips⟩ := hbegins.exists_skipped
  obtain ⟨skipped', after', hrest', hshift', hskips'⟩ := hbegins'.exists_skipped
  have hparts : before.toList ++ rest.toList = before'.toList ++ rest'.toList := by
    rw [← String.toList_append, ← String.toList_append, String.toList_inj]
    exact h.parts.trans h'.parts.symm
  -- as many bytes stand before the one brace as before the other, so it is one brace
  have hfronts : before.toList ++ skipped = before'.toList ++ skipped' := by
    dsimp only at hrest hrest' hshift hshift'
    have happend : (before.toList ++ skipped) ++ fault.brace :: after =
        (before'.toList ++ skipped') ++ fault.brace :: after' := by
      rw [List.append_assoc, List.append_assoc, ← hrest, ← hrest', hparts]
    refine eq_of_byteLength_eq happend ?_
    rw [byteLength_append, byteLength_append, byteLength_toList, byteLength_toList, hshift,
      hshift']
    exact hoffset
  have hbefore : before = before' := String.toList_inj.1 (hskips.eq hskips' hfronts)
  subst hbefore
  have hrests : rest = rest' := String.toList_inj.1 (List.append_cancel_left hparts)
  have hshifts : shift = shift' := Nat.add_left_cancel hoffset
  rw [hrests, hshifts]

/-- At the offset of an error there is the brace that it is about. -/
theorem FaultCut.Cuts.hasCharAt {cut : FaultCut} {raw : String} (h : cut.Cuts raw) :
    HasCharAt raw cut.offset cut.fault.brace := by
  obtain ⟨t, -, hbegins⟩ := h.begins
  obtain ⟨skipped, after, hrest, hshift, -⟩ := hbegins.exists_skipped
  refine ⟨cut.before ++ String.ofList skipped, String.ofList after, ?_, ?_⟩
  · rw [String.utf8ByteSize_append, ← byteLength_toList (String.ofList skipped),
      String.toList_ofList, hshift, FaultCut.offset]
  · rw [← h.parts, ← String.toList_inj]
    simp [hrest]

theorem compile_eq_error_iff {raw : String} {e : TemplateError} :
    compile raw = .error e ↔
      ∃ cut : FaultCut, cut.Cuts raw ∧ e = .malformedTemplate raw cut.offset cut.fault := by
  constructor
  · intro h
    obtain ⟨cut, hcut⟩ := exists_cuts_of_compile h
    exact ⟨cut, hcut, Except.error.inj (h.symm.trans (compile_of_cuts hcut))⟩
  · rintro ⟨cut, hcut, rfl⟩
    exact compile_of_cuts hcut

end PathTemplate

/-! ## Raw texts -/

/-- What is wrong with a query is not said of a path. -/
theorem Query.isMalformedQuery_of_parse {raw : String} {e : TemplateError}
    (h : Query.parse raw = .error e) : e.isMalformedQuery = true := by
  rw [Query.parse] at h
  split at h
  · cases h
  · cases h
    rfl

namespace UrlTemplate

/-- The path stands at the front. -/
theorem exists_pathText_append (raw : String) : ∃ tail, raw = pathText raw ++ tail := by
  refine ⟨String.ofList ((target raw).dropWhile (· ≠ '?') ++ raw.toList.dropWhile (· ≠ '#')), ?_⟩
  rw [← String.toList_inj, String.toList_append, pathText, String.toList_ofList,
    String.toList_ofList, ← List.append_assoc, List.takeWhile_append_dropWhile, target,
    List.takeWhile_append_dropWhile]

theorem compile_or_query_of_parse {raw : String} {e : TemplateError} (h : parse raw = .error e) :
    PathTemplate.compile (pathText raw) = .error e ∨ Query.parse (queryText raw) = .error e := by
  rcases bind_eq_error_iff.1 h with hcompile | ⟨path, -, hrest⟩
  · exact .inl hcompile
  · rcases bind_eq_error_iff.1 hrest with hquery | ⟨query, -, hdone⟩
    · exact .inr hquery
    · cases hdone

/-- An offset in the path is one in the raw text. -/
theorem hasCharAt_of_parse {raw template : String} {offset : Nat} {fault : PathFault}
    (h : parse raw = .error (.malformedTemplate template offset fault)) :
    template = pathText raw ∧
      PathTemplate.compile template = .error (.malformedTemplate template offset fault) ∧
      HasCharAt raw offset fault.brace := by
  rcases compile_or_query_of_parse h with hcompile | hquery
  · obtain ⟨cut, hcut, herror⟩ := PathTemplate.compile_eq_error_iff.1 hcompile
    rw [TemplateError.malformedTemplate.injEq] at herror
    obtain ⟨rfl, rfl, rfl⟩ := herror
    obtain ⟨tail, htail⟩ := exists_pathText_append raw
    refine ⟨rfl, hcompile, ?_⟩
    rw [htail]
    exact hcut.hasCharAt.append tail
  · cases Query.isMalformedQuery_of_parse hquery

end UrlTemplate

/-- A look-up fails as reading the text does. -/
theorem TemplateCache.parse_of_resolve {cache : TemplateCache} {raw : String} {e : TemplateError}
    (h : (cache.resolve raw).result = .error e) : UrlTemplate.parse raw = .error e := by
  rcases cache.resolve_cases raw with ⟨entry, -, hresolve⟩ | ⟨own, -, hparse, hresolve⟩ |
    ⟨template, -, -, hresult, -⟩
  · rw [hresolve] at h
    cases h
  · rw [hresolve] at h
    rw [hparse, Except.error.inj h]
  · rw [hresult] at h
    cases h

namespace Resolver

theorem parse_of_parse {r : Resolver} {raw : String} {e : ResolutionError}
    (h : (r.parse raw).result = .error e) :
    e.template = raw ∧ UrlTemplate.parse raw = .error e.source := by
  obtain ⟨source, hresolve, rfl⟩ := mapError_eq_error_iff.1 h
  exact ⟨rfl, TemplateCache.parse_of_resolve hresolve⟩

theorem parse_of_renderWith {r : Resolver} {raw : String} {params : PathParams}
    {overrides : Query} {policy : MergePolicy} {e : ResolutionError}
    (h : (r.renderWith raw params overrides policy).result = .error e)
    (hmalformed : e.source.isMalformedTemplate = true) :
    e.template = raw ∧ UrlTemplate.parse raw = .error e.source := by
  rcases bind_eq_error_iff.1 h with hparse | ⟨entry, -, hfill⟩
  · exact parse_of_parse hparse
  · -- a template that was read fails only for the values
    obtain ⟨source, hrender, rfl⟩ := mapError_eq_error_iff.1 hfill
    rw [fill, map_eq_error_iff] at hrender
    rw [PathTemplate.isMalformedTemplate_of_render hrender] at hmalformed
    cases hmalformed

end Resolver

namespace PathTemplate

/-- A text that does not compile can be cut in exactly one way into a text that does and a rest that
begins with a fault, and the error tells the whole text, the fault and the number of bytes before
the brace where it shows.  This holds for the path of a raw text, and the same number of bytes stand
before that brace in the raw text, whether it is read, looked up in a cache or rendered. -/
theorem faults_leftmost :
    (∀ raw e, compile raw = .error e ↔
      ∃ cut : FaultCut, cut.Cuts raw ∧ e = .malformedTemplate raw cut.offset cut.fault) ∧
    (∀ raw (cut other : FaultCut), cut.Cuts raw → other.Cuts raw → cut = other) ∧
    (∀ raw template offset fault,
      UrlTemplate.parse raw = .error (.malformedTemplate template offset fault) →
        template = UrlTemplate.pathText raw ∧
        compile template = .error (.malformedTemplate template offset fault) ∧
        HasCharAt raw offset fault.brace) ∧
    (∀ (cache : TemplateCache) raw e, (cache.resolve raw).result = .error e →
      UrlTemplate.parse raw = .error e) ∧
    (∀ (r : Resolver) raw e, (r.parse raw).result = .error e →
      e.template = raw ∧ UrlTemplate.parse raw = .error e.source) ∧
    (∀ (r : Resolver) raw params overrides policy e,
      (r.renderWith raw params overrides policy).result = .error e →
        e.source.isMalformedTemplate = true →
        e.template = raw ∧ UrlTemplate.parse raw = .error e.source) := by
  exact ⟨fun _ _ => compile_eq_error_iff, fun _ _ _ h => h.eq,
    fun _ _ _ _ => UrlTemplate.hasCharAt_of_parse, fun _ _ _ => TemplateCache.parse_of_resolve,
    fun _ _ _ => Resolver.parse_of_parse, fun _ _ _ _ _ _ => Resolver.parse_of_renderWith⟩

/-- Six bytes, but only five characters, stand before the brace. -/
theorem nested_brace_found :
    UrlTemplate.parse "/ü/\x7ba\x7bb\x7d?x" =
        .error (.malformedTemplate "/ü/\x7ba\x7bb\x7d" 6 .nestedBrace) ∧
      HasCharAt "/ü/\x7ba\x7bb\x7d?x" 6 '\x7b' := by
  obtain ⟨hexact, -, hraw, -⟩ := faults_leftmost
  have hbefore : Reduced [.literal "/ü/"] := ⟨by decide, by decide, by decide, trivial⟩
  obtain ⟨t, hcompile, -⟩ := compile_of_reduced hbefore (by decide)
  have hplain : ∀ c ∈ ['a'], isBrace c = false := List.forall_mem_singleton.2 rfl
  have hcuts : FaultCut.Cuts ⟨"/ü/", "\x7ba\x7bb\x7d", .nestedBrace, 2⟩ "/ü/\x7ba\x7bb\x7d" :=
    ⟨by decide, t, hcompile, .nested hplain ['b', '\x7d']⟩
  have herror := (hexact _ _).2 ⟨_, hcuts, rfl⟩
  have hparse : UrlTemplate.parse "/ü/\x7ba\x7bb\x7d?x" =
      .error (.malformedTemplate "/ü/\x7ba\x7bb\x7d" 6 .nestedBrace) := by
    have hpath : UrlTemplate.pathText "/ü/\x7ba\x7bb\x7d?x" = "/ü/\x7ba\x7bb\x7d" := by decide
    rw [UrlTemplate.parse, hpath, herror]
    rfl
  exact ⟨hparse, (hraw _ _ _ _ hparse).2.2⟩

end PathTemplate

end RestTemplates
