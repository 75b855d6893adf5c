import RestTemplates.Proofs.Client.Calls
import RestTemplates.Proofs.Fallible
import RestTemplates.Proofs.Template.DotSegments

/-!
# Substitution — what a template is rendered to

Rendering leaves the literals of a template as they are and writes a value in the place of each
placeholder.  It fails for the first placeholder that has no value, or one that is a dot segment.
What is bound to other names is not looked at, and of several values for one name only the last
counts, however they were bound.

This file defines:

* `Percent.IsEscaped`, the texts of unreserved characters and escapes,
* `PathTemplate.Writes`, what may be written for a value, and `PathTemplate.Renders`, what a segment
  is rendered to,
* `PathTemplate.Refuses`, the error for a name.

It proves:

* `renderSegment_eq_error_iff` and `renders_of_renderSegment`, one segment,
* `render_eq_error_iff` and `render_congr`, all of them,
* `render_exact`, the whole of it.
-/

namespace RestTemplates

open Fallible

/-! ## Escaped texts -/

namespace Percent

/-- The characters that stand for themselves in every part of a URL. -/
def IsUnreservedChar (c : Char) : Prop :=
  c.isAlphanum = true ∨ c = '-' ∨ c = '.' ∨ c = '_' ∨ c = '~'

instance : DecidablePred IsUnreservedChar := fun c =>
  inferInstanceAs (Decidable (c.isAlphanum = true ∨ c = '-' ∨ c = '.' ∨ c = '_' ∨ c = '~'))

/-- The hexadecimal digits without the small letters. -/
def IsUpperHex (c : Char) : Prop := c.isDigit = true ∨ 'A' ≤ c ∧ c ≤ 'F'

instance : DecidablePred IsUpperHex := fun c =>
  inferInstanceAs (Decidable (c.isDigit = true ∨ 'A' ≤ c ∧ c ≤ 'F'))

/-- A text of unreserved characters and of percent signs with two digits. -/
inductive IsEscaped : List Char → Prop
  | nil : IsEscaped []
  | char {c : Char} {rest : List Char} (unreserved : IsUnreservedChar c) (others : IsEscaped rest) :
      IsEscaped (c :: rest)
  | escape {high low : Char} {rest : List Char} (first : IsUpperHex high) (second : IsUpperHex low)
      (others : IsEscaped rest) : IsEscaped ('%' :: high :: low :: rest)

theorem isUnreservedChar_of_isUnreserved :
    ∀ b, isUnreserved b = true → IsUnreservedChar (Char.ofNat b.toNat) := by
  refine forall_byte ?_
  decide +kernel

theorem isUpperHex_hexDigit : ∀ n < 16, IsUpperHex (hexDigit n) := by
  decide

theorem isEscaped_encode (bytes : Bytes) : IsEscaped (encode isUnreserved bytes) := by
  induction bytes with
  | nil => exact .nil
  | cons b bytes ih =>
      rw [encode, List.flatMap_cons, ← encode, encodeByte]
      split
      · next hkeep => exact .char (isUnreservedChar_of_isUnreserved b hkeep) ih
      · obtain ⟨hhigh, hlow⟩ := digits_lt b
        exact .escape (isUpperHex_hexDigit _ hhigh) (isUpperHex_hexDigit _ hlow) ih

theorem toNat_lt_of_isUnreservedChar {c : Char} (h : IsUnreservedChar c) : c.toNat < 0x80 := by
  rcases h with h | rfl | rfl | rfl | rfl
  · -- the capitals, the small letters and the digits
    have hranges : (decide (65 ≤ c.val ∧ c.val ≤ 90) ||
        (decide (97 ≤ c.val) && decide (c.val ≤ 122)) ||
        (decide (48 ≤ c.val) && decide (c.val ≤ 57))) = true := h
    simp only [Bool.or_eq_true, Bool.and_eq_true, decide_eq_true_eq, UInt32.le_iff_toNat_le,
      UInt32.reduceToNat] at hranges
    have hval : c.toNat = c.val.toNat := rfl
    omega
  all_goals decide

theorem isUnreserved_of_isUnreservedChar {c : Char} (h : IsUnreservedChar c) :
    isUnreserved (UInt8.ofNat c.toNat) = true := by
  have hlow : ∀ n < 0x80, IsUnreservedChar (Char.ofNat n) →
      isUnreserved (UInt8.ofNat n) = true := by
    decide
  refine hlow c.toNat (toNat_lt_of_isUnreservedChar h) ?_
  rwa [Char.ofNat_toNat]

end Percent

namespace PathTemplate

/-! ## Written values -/

/-- What may be written for a value: a text in escaped form that reads as the bytes of the value,
and that is the value itself where nothing asks for an escape. -/
structure Writes (value piece : String) : Prop where
  escaped : Percent.IsEscaped piece.toList
  decoded : Percent.decode (Utf8.encode piece) = Utf8.encode value
  unchanged : (∀ c ∈ value.toList, Percent.IsUnreservedChar c) → piece = value

theorem writes_encodeValue (value : String) : Writes value (encodeValue value) where
  escaped := by
    rw [encodeValue, String.toList_ofList]
    exact Percent.isEscaped_encode _
  decoded := by
    rw [utf8_encodeValue, decode_encodeValue]
  unchanged := by
    intro h
    have hkept : Percent.encode Percent.isUnreserved (Utf8.encode (String.ofList value.toList)) =
        value.toList :=
      Percent.encode_of_kept fun c hc =>
        ⟨Percent.toNat_lt_of_isUnreservedChar (h c hc),
          Percent.isUnreserved_of_isUnreservedChar (h c hc)⟩
    rw [String.ofList_toList] at hkept
    rw [encodeValue, hkept, String.ofList_toList]

/-! ## Segments -/

/-- What a segment is rendered to. -/
inductive Renders (params : PathParams) : Segment → String → Prop
  | literal (text : String) : Renders params (.literal text) text
  | placeholder {name value piece : String} (bound : params.find? name = some value)
      (written : Writes value piece) : Renders params (.placeholder name) piece

/-- Why nothing can be written for a name. -/
inductive Refuses (params : PathParams) (name : String) : TemplateError → Prop
  | unbound (missing : params.find? name = none) : Refuses params name (.missingParameter name)
  | dotSegment {value : String} (bound : params.find? name = some value)
      (dots : value = "." ∨ value = "..") : Refuses params name (.invalidParameter name .dotSegment)

theorem accepts_iff {params : PathParams} {name : String} :
    Accepts params name ↔ ∃ value, params.find? name = some value ∧ value ≠ "." ∧ value ≠ ".." := by
  simp [Accepts, isDotSegment]

theorem renders_of_renderSegment {params : PathParams} {s : Segment} {text : String}
    (h : renderSegment params s = .ok text) : Renders params s text := by
  cases s with
  | literal plain =>
      cases h
      exact .literal text
  | placeholder name =>
      obtain ⟨value, hvalue, hdot⟩ := accepts_of_renderSegment h name rfl
      have htext : renderSegment params (.placeholder name) = .ok (encodeValue value) := by
        simp [renderSegment, hvalue, hdot]
      cases h.symm.trans htext
      exact .placeholder hvalue (writes_encodeValue value)

theorem renderSegment_eq_error_iff {params : PathParams} {s : Segment} {e : TemplateError} :
    renderSegment params s = .error e ↔ ∃ name, s = .placeholder name ∧ Refuses params name e := by
  cases s with
  | literal text =>
      constructor
      · intro h
        cases h
      · rintro ⟨name, hs, -⟩
        cases hs
  | placeholder name =>
      constructor
      · intro h
        refine ⟨name, rfl, ?_⟩
        rw [renderSegment] at h
        cases hvalue : params.find? name with
        | none =>
            rw [hvalue] at h
            cases h
            exact .unbound hvalue
        | some value =>
            cases hdot : isDotSegment value with
            | true =>
                simp only [hvalue, hdot, if_true] at h
                cases h
                exact .dotSegment hvalue (by simpa [isDotSegment] using hdot)
            | false => simp [hvalue, hdot] at h
      · rintro ⟨other, hs, hrefuses⟩
        cases hs
        cases hrefuses with
        | unbound hmissing => simp [renderSegment, hmissing]
        | dotSegment hvalue hdots =>
            rcases hdots with rfl | rfl
            · simp [renderSegment, hvalue, isDotSegment]
            · simp [renderSegment, hvalue, isDotSegment]

/-- Segments are rendered if their names are bound to what can be written. -/
theorem forall_renderSegment_iff {params : PathParams} {segments : List Segment} :
    (∀ s ∈ segments, ∃ text, renderSegment params s = .ok text) ↔
      ∀ name ∈ namesOf segments, Accepts params name := by
  constructor
  · intro h name hname
    obtain ⟨text, htext⟩ := h _ (mem_namesOf.1 hname)
    exact accepts_of_renderSegment htext name rfl
  · intro h s hs
    have haccepts : ∀ name ∈ s.name?, Accepts params name := by
      intro name hname
      exact h name (List.mem_filterMap.2 ⟨s, hs, hname⟩)
    obtain ⟨text, htext, -⟩ := renderSegment_of_accepts haccepts
    exact ⟨text, htext⟩

/-! ## Templates -/

/-- The first name for which nothing can be written decides. -/
theorem render_eq_error_iff {t : PathTemplate} {params : PathParams} {e : TemplateError} :
    t.render params = .error e ↔
      ∃ before name after, t.segments = before ++ .placeholder name :: after ∧
        (∀ other ∈ namesOf before, Accepts params other) ∧ Refuses params name e := by
  rw [render, map_eq_error_iff, mapM_eq_error_iff]
  constructor
  · rintro ⟨before, s, after, hsegments, hbefore, hs⟩
    obtain ⟨name, rfl, hrefuses⟩ := renderSegment_eq_error_iff.1 hs
    exact ⟨before, name, after, hsegments, forall_renderSegment_iff.1 hbefore, hrefuses⟩
  · rintro ⟨before, name, after, hsegments, hbefore, hrefuses⟩
    exact ⟨before, _, after, hsegments, forall_renderSegment_iff.2 hbefore,
      renderSegment_eq_error_iff.2 ⟨name, rfl, hrefuses⟩⟩

/-- What is wrong with a value is not said of the template. -/
theorem isMalformedTemplate_of_render {t : PathTemplate} {params : PathParams} {e : TemplateError}
    (h : t.render params = .error e) : e.isMalformedTemplate = false := by
  obtain ⟨before, name, after, -, -, hrefuses⟩ := render_eq_error_iff.1 h
  cases hrefuses with
  | unbound => rfl
  | dotSegment => rfl

theorem exists_render_iff {t : PathTemplate} {params : PathParams} :
    (∃ path, t.render params = .ok path) ↔ ∀ name ∈ t.placeholders, Accepts params name := by
  constructor
  · rintro ⟨path, h⟩
    exact (render_eq_ok_iff.1 h).1
  · intro h
    cases hrender : t.render params with
    | ok path => exact ⟨path, rfl⟩
    | error e =>
        -- the name that the error is about is one of those that are bound to what can be written
        obtain ⟨before, name, after, hsegments, -, hrefuses⟩ := render_eq_error_iff.1 hrender
        have hname : name ∈ t.placeholders := by
          rw [placeholders, ← namesOf, mem_namesOf, hsegments]
          simp
        obtain ⟨value, hvalue, hone, htwo⟩ := accepts_iff.1 (h name hname)
        cases hrefuses with
        | unbound hmissing => cases hvalue.symm.trans hmissing
        | dotSegment hbound hdots =>
            cases hvalue.symm.trans hbound
            exact absurd hdots (not_or.2 ⟨hone, htwo⟩)

/-- Only the names of the template are looked up. -/
theorem render_congr {t : PathTemplate} {params other : PathParams}
    (h : ∀ name ∈ t.placeholders, other.find? name = params.find? name) :
    t.render other = t.render params := by
  have hsegment : ∀ s ∈ t.segments, renderSegment other s = renderSegment params s := by
    intro s hs
    cases s with
    | literal text => rfl
    | placeholder name =>
        rw [renderSegment, renderSegment, h name (mem_namesOf.2 hs)]
  rw [render, render, mapM_congr hsegment]

/-- A template is rendered exactly if each of its names is bound, to another value than the two dot
segments.  The path is then put together from the literals as they are and from what is written for
the values; otherwise the first name for which nothing can be written is reported.  Other names have
no influence, and of several values for a name, bound one by one or in blocks, or by the calls on a
draft, only the last counts. -/
theorem render_exact (t : PathTemplate) (params : PathParams) :
    ((∃ path, t.render params = .ok path) ↔
      ∀ name ∈ t.placeholders,
        ∃ value, params.find? name = some value ∧ value ≠ "." ∧ value ≠ "..") ∧
    (∀ path, t.render params = .ok path →
      ∃ pieces, List.Forall₂ (Renders params) t.segments pieces ∧ path = String.join pieces) ∧
    (∀ e, t.render params = .error e ↔
      ∃ before name after, t.segments = before ++ .placeholder name :: after ∧
        (∀ other ∈ namesOf before,
          ∃ value, params.find? other = some value ∧ value ≠ "." ∧ value ≠ "..") ∧
        Refuses params name e) ∧
    (∀ other : PathParams, (∀ name ∈ t.placeholders, other.find? name = params.find? name) →
      t.render other = t.render params) ∧
    (∀ (blocks : List (List (String × String))) (name : String),
      (blocks.foldl Dictionary.insertAll params).find? name =
        (Dictionary.lastValue? blocks.flatten name).or (params.find? name)) ∧
    (∀ (method : Method) (template : String) (calls : List Call) (name : String),
      (Draft.ofCalls method template calls).params.find? name =
        Dictionary.lastValue? (Call.bindings calls) name) := by
  refine ⟨?_, ?_, ?_, fun _ h => render_congr h, ?_, ?_⟩
  · simp only [exists_render_iff, accepts_iff]
  · intro path h
    obtain ⟨pieces, hpieces, rfl⟩ := map_eq_ok_iff.1 h
    exact ⟨pieces, (mapM_eq_ok_iff.1 hpieces).imp fun _ _ => renders_of_renderSegment, rfl⟩
  · intro e
    simp only [render_eq_error_iff, accepts_iff]
  · intro blocks name
    rw [Dictionary.foldl_insertAll, Dictionary.find?_insertAll]
  · intro method template calls name
    rw [Draft.params_ofCalls, Dictionary.ofList, Dictionary.find?_insertAll,
      Dictionary.find?_empty, Option.or_none]

/-- The path of a user. -/
def userSegments : List Segment := [.literal "/users/", .placeholder "id"]

/-- A value that was replaced and a value for another name leave no trace. -/
theorem user_rendered :
    compile "/users/\x7bid\x7d" = .ok (build userSegments) ∧
      ∃ piece, Writes "a/ü" piece ∧
        (build userSegments).render (.ofList [("id", "x"), ("id", "a/ü"), ("extra", "1")]) =
          .ok ("/users/" ++ piece) := by
  have hcompile : compile (textOf userSegments) = .ok (build userSegments) :=
    compile_textOf ⟨by decide, by decide, by decide, by decide, by decide⟩
  obtain ⟨hbound, hpieces, -⟩ :=
    render_exact (build userSegments) (.ofList [("id", "x"), ("id", "a/ü"), ("extra", "1")])
  obtain ⟨path, hpath⟩ := hbound.2 (by decide)
  obtain ⟨pieces, hrendered, rfl⟩ := hpieces path hpath
  rw [segments_build] at hrendered
  refine ⟨hcompile, ?_⟩
  cases hrendered with
  | cons hliteral hrest =>
      cases hliteral
      cases hrest with
      | cons hplaceholder hnil =>
          cases hnil
          cases hplaceholder with
          | placeholder hvalue hwritten =>
              cases hvalue.symm.trans (show _ = some "a/ü" by decide)
              refine ⟨_, hwritten, ?_⟩
              rw [hpath]
              simp [String.join]

end PathTemplate

end RestTemplates
