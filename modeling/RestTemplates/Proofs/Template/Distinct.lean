import Mathlib.Algebra.GroupWithZero.Nat
import RestTemplates.Proofs.Template.DotSegments

/-!
# Distinct bindings — different values give different paths

A rendered path does not say where its values begin and end.  What tells them apart is a slash of
the template between them: a written value has no slash, so a reader who knows the template can cut
the path at the slashes and take the literals off.  Two placeholders without a slash between them
are not told apart, since any character but the slash may come from either value.

This file defines:

* `PathTemplate.Separated`, the templates with a slash between any two placeholders, and
  `PathTemplate.separated`, which decides it segment by segment,
* `PathTemplate.literals`, the literal texts of a template.

It proves:

* `PathTemplate.agree_of_fill_eq`, equal paths were filled with equal texts,
* `PathTemplate.encodeValue_injective`, equal texts were written for equal values,
* `PathTemplate.distinct_bindings`, for rendered paths and the bindings of their placeholders.
-/

namespace RestTemplates

/-- The text of a literal. -/
def Segment.literal? : Segment → Option String
  | .literal text => some text
  | .placeholder _ => none

namespace PathTemplate

/-- The literal texts in the order of the template. -/
def literals (t : PathTemplate) : List String := t.segments.filterMap Segment.literal?

/-! ## Separated placeholders -/

/-- Two placeholders with only literals between them have a slash there. -/
def Separated (segments : List Segment) : Prop :=
  ∀ before a between b after,
    segments = before ++ .placeholder a :: (between ++ .placeholder b :: after) →
      namesOf between = [] → '/' ∈ (textOf between).toList

/-- Is there a slash before the next placeholder, if there is a next one? -/
def slashFirst : List Segment → Bool
  | [] => true
  | .literal text :: rest => text.toList.contains '/' || slashFirst rest
  | .placeholder _ :: _ => false

def separated : List Segment → Bool
  | [] => true
  | .literal _ :: rest => separated rest
  | .placeholder _ :: rest => slashFirst rest && separated rest

theorem slashFirst_iff {segments : List Segment} :
    slashFirst segments = true ↔
      ∀ between b after, segments = between ++ .placeholder b :: after →
        namesOf between = [] → '/' ∈ (textOf between).toList := by
  induction segments with
  | nil =>
      simp [slashFirst]
  | cons s rest ih =>
      cases s with
      | placeholder name =>
          -- nothing at all stands before this placeholder
          have hnone : ¬ ('/' ∈ (textOf []).toList) := by
            simp
          constructor
          · intro h
            cases h
          · intro h
            exact absurd (h [] name rest rfl rfl) hnone
      | literal text =>
          rw [slashFirst, Bool.or_eq_true, ih]
          constructor
          · intro h between b after heq hnames
            cases between with
            | nil =>
                cases heq
            | cons first others =>
                rcases List.cons.inj heq with ⟨hfirst, hothers⟩
                subst hfirst
                rw [toList_textOf_literal, List.mem_append]
                rcases h with htext | hrest
                · exact .inl (by simpa using htext)
                · exact .inr (hrest others b after hothers hnames)
          · intro h
            by_cases hslash : '/' ∈ text.toList
            · exact .inl (by simpa using hslash)
            · refine .inr ?_
              intro between b after heq hnames
              have hmem := h (.literal text :: between) b after (by simp [heq]) hnames
              rw [toList_textOf_literal, List.mem_append] at hmem
              exact hmem.resolve_left hslash

theorem separated_iff {segments : List Segment} :
    separated segments = true ↔ Separated segments := by
  induction segments with
  | nil =>
      simp [separated, Separated]
  | cons s rest ih =>
      have hbehind : Separated (s :: rest) → Separated rest := by
        intro h before a between b after heq
        exact h (s :: before) a between b after (by simp [heq])
      cases s with
      | literal text =>
          rw [separated, ih]
          refine ⟨?_, hbehind⟩
          intro h before a between b after heq
          cases before with
          | nil =>
              cases heq
          | cons first others =>
              exact h others a between b after (List.cons.inj heq).2
      | placeholder name =>
          rw [separated, Bool.and_eq_true, slashFirst_iff, ih]
          constructor
          · rintro ⟨hnext, hrest⟩ before a between b after heq
            cases before with
            | nil =>
                exact hnext between b after (List.cons.inj heq).2
            | cons first others =>
                exact hrest others a between b after (List.cons.inj heq).2
          · intro h
            refine ⟨?_, hbehind h⟩
            intro between b after heq
            exact h [] name between b after (by simp [heq])

instance (segments : List Segment) : Decidable (Separated segments) :=
  decidable_of_iff _ separated_iff

/-! ## Filled templates -/

theorem fill_literal (written : String → List Char) (text : String) (rest : List Segment) :
    fill written (symbolsOf (.literal text :: rest)) =
      text.toList ++ fill written (symbolsOf rest) := by
  rw [symbolsOf, List.flatMap_cons, ← symbolsOf, fill_append]
  exact congrArg (· ++ _) (fill_map_char written text.toList)

theorem fill_placeholder (written : String → List Char) (name : String) (rest : List Segment) :
    fill written (symbolsOf (.placeholder name :: rest)) =
      written name ++ fill written (symbolsOf rest) := by
  rw [symbolsOf, List.flatMap_cons, ← symbolsOf, fill_append]
  exact congrArg (· ++ _) (by simp [fill, Segment.symbols, fillSymbol])

/-- The text up to the first slash, if that is one of the template, does not depend on values. -/
theorem takeWhile_fill_of_slashFirst {segments : List Segment} (h : slashFirst segments = true)
    (written written' : String → List Char) :
    (fill written (symbolsOf segments)).takeWhile (· ≠ '/') =
      (fill written' (symbolsOf segments)).takeWhile (· ≠ '/') := by
  induction segments with
  | nil => rfl
  | cons s rest ih =>
      cases s with
      | placeholder name =>
          cases h
      | literal text =>
          rw [fill_literal, fill_literal]
          by_cases hslash : '/' ∈ text.toList
          · -- the slash of this literal ends the text on both sides
            have hcut : (text.toList.takeWhile (· ≠ '/')).length ≠ text.toList.length := by
              intro hlength
              have hall := (List.takeWhile_sublist _).eq_of_length hlength
              exact of_decide_eq_true (List.takeWhile_eq_self_iff.1 hall '/' hslash) rfl
            rw [List.takeWhile_append, List.takeWhile_append, if_neg hcut, if_neg hcut]
          · have hrest : slashFirst rest = true := by
              simpa [slashFirst, hslash] using h
            have hkeep : ∀ c ∈ text.toList, decide (c ≠ '/') = true := by
              intro c hc
              exact decide_eq_true fun heq => hslash (heq ▸ hc)
            rw [List.takeWhile_append_of_pos hkeep, List.takeWhile_append_of_pos hkeep, ih hrest]

/-- A separated template that is filled to one text twice was filled with the same texts. -/
theorem agree_of_fill_eq {written written' : String → List Char}
    (hfree : ∀ name, '/' ∉ written name) (hfree' : ∀ name, '/' ∉ written' name)
    {segments : List Segment} (hsep : separated segments = true)
    (h : fill written (symbolsOf segments) = fill written' (symbolsOf segments)) :
    ∀ name ∈ namesOf segments, written name = written' name := by
  induction segments with
  | nil =>
      intro name hname
      cases hname
  | cons s rest ih =>
      cases s with
      | literal text =>
          rw [fill_literal, fill_literal] at h
          exact ih hsep (List.append_cancel_left h)
      | placeholder other =>
          rw [fill_placeholder, fill_placeholder] at h
          rw [separated, Bool.and_eq_true] at hsep
          -- up to the first slash there is the value, and then text that is the same on both sides
          have hkeep : ∀ w : String → List Char, (∀ name, '/' ∉ w name) →
              ∀ c ∈ w other, decide (c ≠ '/') = true := by
            intro w hw c hc
            exact decide_eq_true fun heq => hw other (heq ▸ hc)
          have hcut := congrArg (List.takeWhile (· ≠ '/')) h
          rw [List.takeWhile_append_of_pos (hkeep written hfree),
            List.takeWhile_append_of_pos (hkeep written' hfree'),
            takeWhile_fill_of_slashFirst hsep.1 written written'] at hcut
          have hother : written other = written' other := List.append_cancel_right hcut
          rw [hother] at h
          have hrest := ih hsep.2 (List.append_cancel_left h)
          intro name hname
          rcases List.mem_cons.1 hname with rfl | hname
          · exact hother
          · exact hrest name hname

theorem count_fill {written : String → List Char} (hfree : ∀ name, '/' ∉ written name)
    (segments : List Segment) :
    (fill written (symbolsOf segments)).count '/' =
      ((segments.filterMap Segment.literal?).map (·.toList.count '/')).sum := by
  induction segments with
  | nil => rfl
  | cons s rest ih =>
      cases s with
      | literal text =>
          rw [fill_literal, List.count_append, ih]
          rfl
      | placeholder name =>
          have hnone : (written name).count '/' = 0 := List.count_eq_zero.2 (hfree name)
          rw [fill_placeholder, List.count_append, hnone, Nat.zero_add, ih]
          rfl

/-! ## Rendered templates -/

/-- Escapes are read back as the bytes that they stand for, so no two values are written alike. -/
theorem encodeValue_injective {value value' : String} (h : encodeValue value = encodeValue value') :
    value = value' := by
  refine Utf8.encode_injective ?_
  rw [← decode_encodeValue value, ← decode_encodeValue value', h]

/-- A rendered path has the slashes of the literals and no others.  If the placeholders of the
template are separated by slashes, two rendered paths are equal exactly if the bindings agree on
every placeholder. -/
theorem distinct_bindings (t : PathTemplate) :
    (∀ params path, t.render params = .ok path →
      path.toList.count '/' = (t.literals.map (·.toList.count '/')).sum) ∧
    (Separated t.segments → ∀ params params' path path',
      t.render params = .ok path → t.render params' = .ok path' →
        (path = path' ↔ ∀ name ∈ t.placeholders, params.find? name = params'.find? name)) := by
  constructor
  · intro params path hrender
    rw [(render_eq_ok_iff.1 hrender).2]
    exact count_fill (not_mem_writtenOf _) t.segments
  · intro hsep params params' path path' hrender hrender'
    rcases render_eq_ok_iff.1 hrender with ⟨haccepts, hpath⟩
    rcases render_eq_ok_iff.1 hrender' with ⟨haccepts', hpath'⟩
    constructor
    · intro heq name hname
      have hfill : fill (written params) (symbolsOf t.segments) =
          fill (written params') (symbolsOf t.segments) := by
        rw [← hpath, ← hpath', heq]
      have hwritten : written params name = written params' name :=
        agree_of_fill_eq (not_mem_writtenOf _) (not_mem_writtenOf _) (separated_iff.2 hsep) hfill
          name hname
      rcases haccepts name hname with ⟨value, hvalue, -⟩
      rcases haccepts' name hname with ⟨value', hvalue', -⟩
      have hencoded : encodeValue value = encodeValue value' := by
        refine String.toList_inj.1 ?_
        simpa [written, writtenOf, hvalue, hvalue'] using hwritten
      rw [hvalue, hvalue', encodeValue_injective hencoded]
    · intro hagree
      rw [← String.toList_inj, hpath, hpath']
      refine fill_congr ?_
      intro name hname
      rw [holes_symbolsOf] at hname
      rw [written, written, writtenOf, writtenOf, hagree name hname]

/-- Without a slash between them, two values run together. -/
example :
    (build [.placeholder "a", .placeholder "b"]).render (.ofList [("a", "x"), ("b", "yz")]) =
      (build [.placeholder "a", .placeholder "b"]).render (.ofList [("a", "xy"), ("b", "z")]) := by
  decide

/-- A user and one of their files. -/
def fileSegments : List Segment :=
  [.literal "/users/", .placeholder "user", .literal "/files/", .placeholder "file"]

/-- A slash in the name of a user is not taken for the one behind it. -/
theorem file_bindings_distinct :
    compile "/users/\x7buser\x7d/files/\x7bfile\x7d" = .ok (build fileSegments) ∧
      ∃ path path',
        (build fileSegments).render (.ofList [("user", "a"), ("file", "b/files/c")]) = .ok path ∧
        (build fileSegments).render (.ofList [("user", "a/files/b"), ("file", "c")]) = .ok path' ∧
        path ≠ path' ∧ path.toList.count '/' = 4 := by
  have hcompile : compile (textOf fileSegments) = .ok (build fileSegments) :=
    compile_textOf ⟨by decide, by decide, by decide, by decide, by decide⟩
  have hfirst : (build fileSegments).render (.ofList [("user", "a"), ("file", "b/files/c")]) =
      .ok "/users/a/files/b%2Ffiles%2Fc" := by
    decide +kernel
  have hsecond : (build fileSegments).render (.ofList [("user", "a/files/b"), ("file", "c")]) =
      .ok "/users/a%2Ffiles%2Fb/files/c" := by
    decide +kernel
  have hdistinct := distinct_bindings (build fileSegments)
  refine ⟨hcompile, _, _, hfirst, hsecond, ?_, ?_⟩
  · intro heq
    have hagree := (hdistinct.2 (by decide) _ _ _ _ hfirst hsecond).1 heq "user" (by decide)
    exact absurd hagree (by decide)
  · exact (hdistinct.1 _ _ hfirst).trans (by decide)

end PathTemplate

end RestTemplates
