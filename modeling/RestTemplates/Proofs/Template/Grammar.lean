import Mathlib.Data.List.Chain
import Mathlib.Data.List.TakeWhile
import RestTemplates.Proofs.Dictionary
import RestTemplates.Template.Path

/-!
# Template grammar — which texts compile, and to what

A template text is a sequence of brace-free runs and of names in braces.  Such a text can be cut
into runs in several ways, but in only one way into runs that are as long as possible; this is the
way in which `PathTemplate.compile` cuts it.  Any other text can be cut so up to its first fault.

This file defines:

* `Segment.Valid` and `PathTemplate.IsTemplateText`, the grammar,
* `PathFault.Begins`, what cannot go on a template text,
* `PathTemplate.Canonical`, the segment lists that are cut as coarsely as possible,
* `PathTemplate.build`, the template of a segment list.

It proves `exists_cut`, every text is cut into segments and perhaps a fault, and that scanning
follows this cut (`scan_textOf_append`, `scan_of_begins`).  The main statement is
`compile_canonical_iff`: compilation and text are inverse to each other between template texts and
canonical segment lists.
-/

namespace RestTemplates

namespace Segment

/-- A literal is free of braces; a name is also not empty. -/
def Valid : Segment → Prop
  | .literal text => ∀ c ∈ text.toList, PathTemplate.isBrace c = false
  | .placeholder name => name ≠ "" ∧ ∀ c ∈ name.toList, PathTemplate.isBrace c = false

instance : DecidablePred Valid
  | .literal text =>
    decidable_of_iff (text.toList.all (fun c => !PathTemplate.isBrace c) = true) (by simp [Valid])
  | .placeholder name =>
    decidable_of_iff
      (name ≠ "" ∧ name.toList.all (fun c => !PathTemplate.isBrace c) = true) (by simp [Valid])

end Segment

/-- How a text begins that nothing in a template can stand for, where these names are taken: its
fault, and the number of bytes before the brace at which the fault shows. -/
inductive PathFault.Begins (names : List String) : PathFault → List Char → Nat → Prop
  | closing (rest : List Char) : Begins names .unmatchedClosingBrace ('\x7d' :: rest) 0
  | unterminated {name : List Char} (plain : ∀ c ∈ name, PathTemplate.isBrace c = false) :
      Begins names .unterminatedPlaceholder ('\x7b' :: name) 0
  | unnamed (rest : List Char) : Begins names .emptyPlaceholder ('\x7b' :: '\x7d' :: rest) 0
  | taken {name : String} (valid : (Segment.placeholder name).Valid) (used : name ∈ names)
      (rest : List Char) :
      Begins names (.duplicateName name) ('\x7b' :: (name.toList ++ '\x7d' :: rest)) 0
  | nested {name : List Char} (plain : ∀ c ∈ name, PathTemplate.isBrace c = false)
      (rest : List Char) :
      Begins names .nestedBrace ('\x7b' :: (name ++ '\x7b' :: rest))
        (1 + PathTemplate.byteLength name)

namespace PathTemplate

/-! ## The grammar -/

/-- The names of the placeholders among some segments, in their order. -/
def namesOf (segments : List Segment) : List String := segments.filterMap Segment.name?

/-- The text of some segments. -/
def textOf (segments : List Segment) : String := String.join (segments.map Segment.text)

/-- Some valid segments with distinct names have this text. -/
def IsTemplateText (raw : String) : Prop :=
  ∃ segments, (∀ s ∈ segments, s.Valid) ∧ (namesOf segments).Nodup ∧ textOf segments = raw

/-- Valid segments with distinct names, no two literals side by side, and no empty literal but the
one of the empty text. -/
structure Canonical (segments : List Segment) : Prop where
  inhabited : segments ≠ []
  valid : ∀ s ∈ segments, s.Valid
  distinct : (namesOf segments).Nodup
  apart : segments.IsChain fun a b => a.name? = none → b.name? ≠ none
  filled : .literal "" ∈ segments → segments = [.literal ""]

/-- Canonical but for the names, and without the empty literal; these lists are closed under taking
tails. -/
def Reduced : List Segment → Prop
  | [] => True
  | .literal text :: rest =>
      (Segment.literal text).Valid ∧ text ≠ "" ∧ (∀ s ∈ rest.head?, s.name? ≠ none) ∧ Reduced rest
  | .placeholder name :: rest => (Segment.placeholder name).Valid ∧ Reduced rest

/-! ## Texts as characters -/

@[simp] theorem toList_textOf_nil : (textOf []).toList = [] := rfl

@[simp] theorem toList_textOf_literal (text : String) (rest : List Segment) :
    (textOf (.literal text :: rest)).toList = text.toList ++ (textOf rest).toList := by
  simp [textOf, Segment.text]

@[simp] theorem toList_textOf_placeholder (name : String) (rest : List Segment) :
    (textOf (.placeholder name :: rest)).toList =
      '\x7b' :: (name.toList ++ '\x7d' :: (textOf rest).toList) := by
  simp [textOf, Segment.text]

@[simp] theorem namesOf_nil : namesOf [] = [] := rfl

@[simp] theorem namesOf_literal (text : String) (rest : List Segment) :
    namesOf (.literal text :: rest) = namesOf rest := rfl

@[simp] theorem namesOf_placeholder (name : String) (rest : List Segment) :
    namesOf (.placeholder name :: rest) = name :: namesOf rest := rfl

theorem namesOf_append (segments others : List Segment) :
    namesOf (segments ++ others) = namesOf segments ++ namesOf others :=
  List.filterMap_append

theorem mem_namesOf {segments : List Segment} {name : String} :
    name ∈ namesOf segments ↔ Segment.placeholder name ∈ segments := by
  rw [namesOf, List.mem_filterMap]
  constructor
  · rintro ⟨s, hs, hname⟩
    cases s with
    | literal text => cases hname
    | placeholder other =>
        cases hname
        exact hs
  · intro h
    exact ⟨_, h, rfl⟩

/-- The text of reduced segments starts as its first segment does. -/
theorem isBrace_of_head?_textOf {segments : List Segment}
    (hhead : ∀ s ∈ segments.head?, s.name? ≠ none) :
    ∀ c ∈ (textOf segments).toList.head?, isBrace c = true := by
  intro c hc
  cases segments with
  | nil => cases hc
  | cons s rest =>
      cases s with
      | literal text => exact absurd rfl (hhead _ rfl)
      | placeholder name =>
          rw [toList_textOf_placeholder] at hc
          cases hc
          rfl

theorem head?_textOf_of_reduced {text : String} {rest : List Segment}
    (h : Reduced (.literal text :: rest)) :
    ∃ c ∈ (textOf (.literal text :: rest)).toList.head?, isBrace c = false := by
  obtain ⟨hvalid, hne, -, -⟩ := h
  cases hlist : text.toList with
  | nil => exact absurd (String.toList_eq_nil_iff.1 hlist) hne
  | cons c cs =>
      refine ⟨c, ?_, hvalid c (by simp [hlist])⟩
      simp [hlist]

/-! ## Canonical and reduced lists -/

theorem reduced_iff {segments : List Segment} :
    Reduced segments ↔ (∀ s ∈ segments, s.Valid) ∧
      (segments.IsChain fun a b => a.name? = none → b.name? ≠ none) ∧
      Segment.literal "" ∉ segments := by
  induction segments with
  | nil =>
      simp [Reduced]
  | cons s rest ih =>
      rw [List.isChain_cons, List.forall_mem_cons, List.mem_cons, not_or]
      cases s with
      | literal text =>
          rw [Reduced, ih]
          have hname : (Segment.literal text).name? = none := rfl
          have hempty : text ≠ "" ↔ Segment.literal "" ≠ Segment.literal text := by
            rw [ne_eq, ne_eq, Segment.literal.injEq, eq_comm]
          simp only [hname, forall_const, hempty]
          tauto
      | placeholder name =>
          rw [Reduced, ih]
          have hname : (Segment.placeholder name).name? ≠ none := by simp [Segment.name?]
          simp only [hname, false_implies, implies_true, true_and, ne_eq, reduceCtorEq,
            not_false_eq_true]
          tauto

theorem canonical_iff {segments : List Segment} :
    Canonical segments ↔ segments = [.literal ""] ∨
      segments ≠ [] ∧ Reduced segments ∧ (namesOf segments).Nodup := by
  rw [reduced_iff]
  constructor
  · intro h
    by_cases hempty : Segment.literal "" ∈ segments
    · exact .inl (h.filled hempty)
    · exact .inr ⟨h.inhabited, ⟨h.valid, h.apart, hempty⟩, h.distinct⟩
  · rintro (rfl | ⟨hne, ⟨hvalid, hapart, hempty⟩, hnodup⟩)
    · exact {
        inhabited := List.cons_ne_nil _ _
        valid := by simp [Segment.Valid]
        distinct := List.nodup_nil
        apart := by simp
        filled := fun _ => rfl }
    · exact ⟨hne, hvalid, hnodup, hapart, fun h => absurd h hempty⟩

/-- Literals side by side are joined, and empty ones left out, without a change to text and
names. -/
theorem exists_reduced {segments : List Segment} (h : ∀ s ∈ segments, s.Valid) :
    ∃ reduced, Reduced reduced ∧ namesOf reduced = namesOf segments ∧
      textOf reduced = textOf segments := by
  induction segments with
  | nil =>
      exact ⟨[], trivial, rfl, rfl⟩
  | cons s rest ih =>
      rcases ih fun t ht => h t (List.mem_cons_of_mem _ ht) with ⟨reduced, hred, hnames, htext⟩
      have hvalid := h s List.mem_cons_self
      have hchars : (textOf reduced).toList = (textOf rest).toList := congrArg String.toList htext
      cases s with
      | placeholder name =>
          refine ⟨.placeholder name :: reduced, ⟨hvalid, hred⟩, by simp [hnames], ?_⟩
          rw [← String.toList_inj]
          simp [hchars]
      | literal text =>
          by_cases hempty : text = ""
          · -- an empty literal adds nothing, so the rest may do without it
            refine ⟨reduced, hred, hnames, ?_⟩
            rw [← String.toList_inj]
            simp [hempty, hchars]
          · cases reduced with
            | nil =>
                refine ⟨[.literal text], ⟨hvalid, hempty, by simp, trivial⟩, hnames, ?_⟩
                rw [← String.toList_inj]
                simpa using hchars
            | cons next others =>
                cases next with
                | placeholder name =>
                    refine ⟨.literal text :: .placeholder name :: others,
                      ⟨hvalid, hempty, by simp [Segment.name?], hred⟩, hnames, ?_⟩
                    rw [← String.toList_inj]
                    simpa using hchars
                | literal following =>
                    -- both texts are brace-free, and so is the one literal that holds them
                    obtain ⟨hfollowing, -, hhead, hothers⟩ := hred
                    refine ⟨.literal (text ++ following) :: others, ⟨?_, ?_, hhead, hothers⟩,
                      hnames, ?_⟩
                    · intro c hc
                      rcases List.mem_append.1 (String.toList_append ▸ hc) with hc | hc
                      · exact hvalid c hc
                      · exact hfollowing c hc
                    · simp [hempty]
                    · rw [← String.toList_inj]
                      simpa using hchars

/-! ## The template of some segments -/

def add (t : PathTemplate) : Segment → PathTemplate
  | .literal text => t.addLiteral text
  | .placeholder name => t.addPlaceholder name

/-- The segments in their order, with the index of their names. -/
def build (segments : List Segment) : PathTemplate := segments.foldl add empty

theorem build_concat (segments : List Segment) (s : Segment) :
    build (segments ++ [s]) = (build segments).add s := by
  simp [build]

theorem segments_build (segments : List Segment) : (build segments).segments = segments := by
  induction segments using List.reverseRecOn with
  | nil => rfl
  | append_singleton segments s ih =>
      rw [build_concat]
      cases s with
      | literal text => simp [add, addLiteral, ih]
      | placeholder name => simp [add, addPlaceholder, ih]

theorem text_build (segments : List Segment) : (build segments).text = textOf segments := by
  rw [text, segments_build, textOf]

/-- The index leads from each name to its place and knows no other name. -/
theorem find?_names_build {segments : List Segment} (h : (namesOf segments).Nodup)
    (name : String) (i : Nat) :
    (build segments).names.find? name = some i ↔ segments[i]? = some (.placeholder name) := by
  induction segments using List.reverseRecOn with
  | nil =>
      simp [build, empty]
  | append_singleton segments s ih =>
      rw [namesOf_append, List.nodup_append] at h
      have hold := ih h.1
      rw [build_concat, List.getElem?_append]
      cases s with
      | literal text =>
          rw [add, addLiteral, hold]
          split
          · rfl
          · next hi =>
            rw [List.getElem?_eq_none (Nat.le_of_not_lt hi)]
            simp [List.getElem?_singleton]
      | placeholder other =>
          have hfresh : other ∉ namesOf segments := by
            intro hmem
            exact h.2.2 other hmem other List.mem_cons_self rfl
          rw [add, addPlaceholder, Dictionary.find?_insert, segments_build]
          by_cases hname : name = other
          · subst hname
            have hnone : segments[i]? ≠ some (.placeholder name) := by
              intro hi
              exact hfresh (mem_namesOf.2 (List.mem_of_getElem? hi))
            simp only [if_true, Option.some.injEq, List.getElem?_singleton]
            split
            · simp only [hnone, iff_false]
              omega
            · simp
              omega
          · rw [if_neg hname, hold]
            split
            · rfl
            · next hi =>
              rw [List.getElem?_eq_none (Nat.le_of_not_lt hi)]
              simp [List.getElem?_singleton, Ne.symm hname]

theorem contains_names_build {segments : List Segment} (h : (namesOf segments).Nodup)
    (name : String) :
    (build segments).names.contains name = true ↔ name ∈ namesOf segments := by
  rw [Dictionary.contains, Option.isSome_iff_exists, mem_namesOf, List.mem_iff_getElem?]
  exact exists_congr fun i => find?_names_build h name i

/-! ## Scanning a text of segments -/

theorem spanPlain_append {plain rest : List Char} (hplain : ∀ c ∈ plain, isBrace c = false)
    (hrest : ∀ c ∈ rest.head?, isBrace c = true) : spanPlain (plain ++ rest) = (plain, rest) := by
  have hkeep : ∀ c ∈ plain, (!isBrace c) = true := by
    intro c hc
    simp [hplain c hc]
  rw [spanPlain, List.takeWhile_append_of_pos hkeep, List.dropWhile_append_of_pos hkeep]
  cases rest with
  | nil =>
      simp
  | cons c cs =>
      simp [hrest c rfl]

theorem scan_nil (offset : Nat) (t : PathTemplate) : scan offset t [] = .ok t := by
  rw [scan]

theorem scan_literal (offset : Nat) (t : PathTemplate) {text : String} {rest : List Char}
    (hvalid : (Segment.literal text).Valid) (hne : text ≠ "")
    (hrest : ∀ c ∈ rest.head?, isBrace c = true) :
    scan offset t (text.toList ++ rest) =
      scan (offset + byteLength text.toList) (t.addLiteral text) rest := by
  have hspan := spanPlain_append hvalid hrest
  cases hlist : text.toList with
  | nil =>
      exact absurd (String.toList_eq_nil_iff.1 hlist) hne
  | cons c cs =>
      have hc : isBrace c = false := hvalid c (by simp [hlist])
      have hbraces : c ≠ '\x7d' ∧ c ≠ '\x7b' := by
        constructor
        · rintro rfl
          cases hc
        · rintro rfl
          cases hc
      rw [hlist] at hspan
      rw [List.cons_append] at hspan ⊢
      rw [scan, if_neg hbraces.1, if_neg hbraces.2]
      simp only [hspan, ← hlist, String.ofList_toList]

/-- What is done behind an opening brace depends on the text up to the next brace. -/
theorem scan_open (offset : Nat) (t : PathTemplate) {name rest : List Char}
    (hname : ∀ c ∈ name, isBrace c = false) (hrest : ∀ c ∈ rest.head?, isBrace c = true) :
    scan offset t ('\x7b' :: (name ++ rest)) =
      match rest with
      | [] => .error (offset, .unterminatedPlaceholder)
      | brace :: after =>
        if brace = '\x7b' then .error (offset + 1 + byteLength name, .nestedBrace)
        else if name = [] then .error (offset, .emptyPlaceholder)
        else if t.names.contains (String.ofList name) then
          .error (offset, .duplicateName (String.ofList name))
        else
          scan (offset + 1 + byteLength name + 1) (t.addPlaceholder (String.ofList name))
            after := by
  have hspan := spanPlain_append hname hrest
  rw [scan, if_neg (by decide), if_pos rfl]
  simp only [hspan]
  split
  · next heq =>
    rw [hspan] at heq
    subst heq
    rfl
  · next heq =>
    rw [hspan] at heq
    subst heq
    rfl

theorem scan_placeholder (offset : Nat) (t : PathTemplate) {name : String} {rest : List Char}
    (hvalid : (Segment.placeholder name).Valid) (hfresh : t.names.contains name = false) :
    scan offset t ('\x7b' :: (name.toList ++ '\x7d' :: rest)) =
      scan (offset + 1 + byteLength name.toList + 1) (t.addPlaceholder name) rest := by
  have hne : name.toList ≠ [] := fun h => hvalid.1 (String.toList_eq_nil_iff.1 h)
  rw [scan_open offset t hvalid.2 (by simp [isBrace])]
  simp [hne, hfresh]

/-- A text with a fault at its start is refused for that fault. -/
theorem scan_of_begins {names : List String} {fault : PathFault} {rest : List Char} {shift : Nat}
    (h : fault.Begins names rest shift) {t : PathTemplate}
    (hnames : ∀ name ∈ names, t.names.contains name = true) (offset : Nat) :
    scan offset t rest = .error (offset + shift, fault) := by
  cases h with
  | closing rest =>
      rw [scan, if_pos rfl]
      rfl
  | unterminated hplain =>
      rename_i name
      have hend : ∀ c ∈ ([] : List Char).head?, isBrace c = true := by simp
      rw [← List.append_nil name, scan_open offset t hplain hend]
      rfl
  | unnamed rest =>
      have hname : ∀ c ∈ ([] : List Char), isBrace c = false := by simp
      rw [← List.nil_append ('\x7d' :: rest), scan_open offset t hname (by simp [isBrace])]
      simp
  | taken hvalid hused rest =>
      rename_i name
      have hne : name.toList ≠ [] := fun h => hvalid.1 (String.toList_eq_nil_iff.1 h)
      rw [scan_open offset t hvalid.2 (by simp [isBrace])]
      simp [hne, hnames name hused]
  | nested hplain rest =>
      rw [scan_open offset t hplain (by simp [isBrace])]
      simp [Nat.add_assoc]

/-- A rest with a fault at its start starts with a brace. -/
theorem isBrace_of_begins {names : List String} {fault : PathFault} {rest : List Char}
    {shift : Nat} (h : fault.Begins names rest shift) : ∀ c ∈ rest.head?, isBrace c = true := by
  cases h <;> simp [isBrace]

theorem byteLength_append (cs ds : List Char) :
    byteLength (cs ++ ds) = byteLength cs + byteLength ds := by
  induction cs with
  | nil => simp [byteLength]
  | cons c cs ih => rw [List.cons_append, byteLength, byteLength, ih, Nat.add_assoc]

/-- Scanning adds the segments of a text to those already read, up to a brace that is none of
theirs. -/
theorem scan_textOf_append (offset : Nat) (read : List Segment) {segments : List Segment}
    {rest : List Char} (hred : Reduced segments) (hnodup : (namesOf (read ++ segments)).Nodup)
    (hrest : ∀ c ∈ rest.head?, isBrace c = true) :
    scan offset (build read) ((textOf segments).toList ++ rest) =
      scan (offset + byteLength (textOf segments).toList) (build (read ++ segments)) rest := by
  induction segments generalizing offset read with
  | nil =>
      simp [byteLength]
  | cons s others ih =>
      have happend : read ++ s :: others = (read ++ [s]) ++ others := by simp
      rw [happend] at hnodup ⊢
      cases s with
      | literal text =>
          obtain ⟨hvalid, hne, hhead, hothers⟩ := hred
          have hbrace : ∀ c ∈ ((textOf others).toList ++ rest).head?, isBrace c = true := by
            intro c hc
            rw [List.head?_append] at hc
            rcases Option.or_eq_some_iff.1 hc with hc | hc
            · exact isBrace_of_head?_textOf hhead c hc
            · exact hrest c hc.2
          have hnext := ih (offset + byteLength text.toList) _ hothers hnodup
          rw [toList_textOf_literal, List.append_assoc, scan_literal offset _ hvalid hne hbrace,
            byteLength_append, ← Nat.add_assoc, ← hnext, build_concat, add]
      | placeholder name =>
          obtain ⟨hvalid, hothers⟩ := hred
          have hread : (namesOf read).Nodup ∧ name ∉ namesOf read := by
            rw [namesOf_append, namesOf_append, List.nodup_append, List.nodup_append] at hnodup
            exact ⟨hnodup.1.1, fun hmem => hnodup.1.2.2 name hmem name List.mem_cons_self rfl⟩
          have hfresh : (build read).names.contains name = false := by
            rw [Bool.eq_false_iff, ne_eq, contains_names_build hread.1]
            exact hread.2
          have hnext := ih (offset + 1 + byteLength name.toList + 1) _ hothers hnodup
          have htext : (textOf (.placeholder name :: others)).toList ++ rest =
              '\x7b' :: (name.toList ++ '\x7d' :: ((textOf others).toList ++ rest)) := by
            simp
          have hlength : byteLength (textOf (.placeholder name :: others)).toList =
              1 + byteLength name.toList + 1 + byteLength (textOf others).toList := by
            rw [toList_textOf_placeholder, byteLength, byteLength_append, byteLength]
            have hbrace : Char.utf8Size '\x7b' = 1 ∧ Char.utf8Size '\x7d' = 1 := by decide
            omega
          have hoffset :
              offset + (1 + byteLength name.toList + 1 + byteLength (textOf others).toList) =
                offset + 1 + byteLength name.toList + 1 + byteLength (textOf others).toList := by
            omega
          rw [htext, scan_placeholder offset _ hvalid hfresh, hlength, hoffset, ← hnext,
            build_concat, add]

/-- The text of some segments is read as these segments. -/
theorem scan_textOf (offset : Nat) (read : List Segment) {segments : List Segment}
    (hred : Reduced segments) (hnodup : (namesOf (read ++ segments)).Nodup) :
    scan offset (build read) (textOf segments).toList = .ok (build (read ++ segments)) := by
  have hend : ∀ c ∈ ([] : List Char).head?, isBrace c = true := by simp
  have hscan := scan_textOf_append offset read hred hnodup hend
  rwa [List.append_nil, scan_nil] at hscan

theorem forall_spanPlain (cs : List Char) : ∀ c ∈ (spanPlain cs).1, isBrace c = false := by
  intro c hc
  simpa using List.mem_takeWhile_imp hc

theorem spanPlain_append_eq (cs : List Char) : (spanPlain cs).1 ++ (spanPlain cs).2 = cs :=
  List.takeWhile_append_dropWhile

theorem isBrace_of_head?_spanPlain (cs : List Char) :
    ∀ c ∈ (spanPlain cs).2.head?, isBrace c = true := by
  intro c hc
  have hhead := List.head?_dropWhile_not (fun c => !isBrace c) cs
  rw [spanPlain] at hc
  rw [hc] at hhead
  simpa using hhead

/-- A text that starts with an opening brace starts with a new placeholder, or with a fault. -/
theorem placeholder_or_begins (names : List String) (cs : List Char) :
    (∃ name after, (Segment.placeholder name).Valid ∧ name ∉ names ∧
      cs = name.toList ++ '\x7d' :: after) ∨
    ∃ fault shift, PathFault.Begins names fault ('\x7b' :: cs) shift := by
  have hcs := spanPlain_append_eq cs
  have hplain := forall_spanPlain cs
  have hbrace := isBrace_of_head?_spanPlain cs
  generalize (spanPlain cs).1 = plain at hcs hplain
  cases hrest : (spanPlain cs).2 with
  | nil =>
      rw [hrest, List.append_nil] at hcs
      exact .inr ⟨_, _, .unterminated (hcs ▸ hplain)⟩
  | cons brace after =>
      rw [hrest] at hcs hbrace
      by_cases hopen : brace = '\x7b'
      · rw [← hcs, hopen]
        exact .inr ⟨_, _, .nested hplain after⟩
      · -- the plain text ends at a brace, so this is a closing one
        have hclose : brace = '\x7d' := by
          simpa [isBrace, hopen] using hbrace brace rfl
        rw [hclose] at hcs
        by_cases hname : plain = []
        · rw [← hcs, hname]
          exact .inr ⟨_, _, .unnamed after⟩
        · have hvalid : (Segment.placeholder (String.ofList plain)).Valid := by
            refine ⟨by simpa using hname, ?_⟩
            rwa [String.toList_ofList]
          have htext : cs = (String.ofList plain).toList ++ '\x7d' :: after := by
            rw [String.toList_ofList, hcs]
          by_cases hused : String.ofList plain ∈ names
          · rw [htext]
            exact .inr ⟨_, _, .taken hvalid hused after⟩
          · exact .inl ⟨_, after, hvalid, hused, htext⟩

/-- Behind the longest plain text there is no literal, which would start without a brace. -/
theorem name?_ne_none_of_append_eq {cs rest : List Char} {segments : List Segment}
    (hred : Reduced segments) (htext : (textOf segments).toList ++ rest = (spanPlain cs).2) :
    ∀ s ∈ segments.head?, s.name? ≠ none := by
  intro s hs
  cases segments with
  | nil => cases hs
  | cons first others =>
      cases hs
      cases s with
      | placeholder name => simp [Segment.name?]
      | literal text =>
          obtain ⟨d, hd, hplain⟩ := head?_textOf_of_reduced hred
          have hfront : d ∈ (spanPlain cs).2.head? := by
            rw [← htext, List.head?_append, hd]
            rfl
          rw [isBrace_of_head?_spanPlain cs d hfront] at hplain
          cases hplain

theorem nodup_namesOf_concat {segments : List Segment} {name : String}
    (hnodup : (namesOf segments).Nodup) (hfresh : name ∉ namesOf segments) :
    (namesOf (segments ++ [.placeholder name])).Nodup := by
  rw [namesOf_append, List.nodup_append]
  refine ⟨hnodup, by simp, ?_⟩
  intro other hother _ hmem heq
  rw [List.mem_singleton.1 hmem] at heq
  exact hfresh (heq ▸ hother)

/-- Every text is the text of some segments, up to its first fault if it has one. -/
theorem exists_cut (read : List Segment) (cs : List Char) (hnodup : (namesOf read).Nodup) :
    ∃ segments rest, Reduced segments ∧ (namesOf (read ++ segments)).Nodup ∧
      (textOf segments).toList ++ rest = cs ∧
      (rest = [] ∨
        ∃ fault shift, PathFault.Begins (namesOf (read ++ segments)) fault rest shift) := by
  -- each segment is taken off the front of the text, which gets shorter
  induction hlength : cs.length using Nat.strong_induction_on generalizing read cs with
  | h length ih =>
    subst hlength
    cases cs with
    | nil =>
        exact ⟨[], [], trivial, by simpa using hnodup, rfl, .inl rfl⟩
    | cons c tail =>
        by_cases hclose : c = '\x7d'
        · subst hclose
          exact ⟨[], _, trivial, by simpa using hnodup, rfl, .inr ⟨_, _, .closing tail⟩⟩
        by_cases hopen : c = '\x7b'
        · subst hopen
          rcases placeholder_or_begins (namesOf read) tail with
            ⟨name, after, hvalid, hfresh, htail⟩ | ⟨fault, shift, hbegins⟩
          · have hnodup' := nodup_namesOf_concat hnodup hfresh
            have hshorter : after.length < ('\x7b' :: tail).length := by
              rw [htail]
              simp
              omega
            obtain ⟨segments, rest, hred, hnames, htext, hend⟩ :=
              ih _ hshorter (read ++ [.placeholder name]) after hnodup' rfl
            rw [List.append_assoc, List.singleton_append] at hnames hend
            refine ⟨.placeholder name :: segments, rest, ⟨hvalid, hred⟩, hnames, ?_, hend⟩
            rw [toList_textOf_placeholder, htail, ← htext]
            simp
          · exact ⟨[], _, trivial, by simpa using hnodup, rfl,
              .inr ⟨fault, shift, by simpa using hbegins⟩⟩
        · have hplain : isBrace c = false := by
            simp [isBrace, hclose, hopen]
          have hne : (spanPlain (c :: tail)).1 ≠ [] := by
            simp [spanPlain, hplain]
          have hnodup' :
              (namesOf (read ++ [.literal (String.ofList (spanPlain (c :: tail)).1)])).Nodup := by
            rw [namesOf_append]
            simpa using hnodup
          obtain ⟨segments, rest, hred, hnames, htext, hend⟩ :=
            ih _ (length_spanPlain_lt hplain tail) _ _ hnodup' rfl
          rw [List.append_assoc, List.singleton_append] at hnames hend
          refine ⟨.literal (String.ofList (spanPlain (c :: tail)).1) :: segments, rest,
            ⟨?_, ?_, ?_, hred⟩, hnames, ?_, hend⟩
          · simpa [Segment.Valid] using forall_spanPlain (c :: tail)
          · simpa using hne
          · exact name?_ne_none_of_append_eq hred htext
          · rw [toList_textOf_literal, String.toList_ofList, List.append_assoc, htext]
            exact spanPlain_append_eq (c :: tail)

/-- What scanning adds are the segments of the text that it has read. -/
theorem exists_of_scan_eq_ok (read : List Segment) {offset : Nat} {cs : List Char}
    {t : PathTemplate} (hnodup : (namesOf read).Nodup)
    (hscan : scan offset (build read) cs = .ok t) :
    ∃ segments, Reduced segments ∧ (namesOf (read ++ segments)).Nodup ∧
      (textOf segments).toList = cs ∧ t = build (read ++ segments) := by
  obtain ⟨segments, rest, hred, hnames, htext, hend⟩ := exists_cut read cs hnodup
  rcases hend with rfl | ⟨fault, shift, hbegins⟩
  · rw [List.append_nil] at htext
    rw [← htext, scan_textOf offset read hred hnames] at hscan
    exact ⟨segments, hred, hnames, htext, (Except.ok.inj hscan).symm⟩
  · -- scanning would have stopped at the fault
    have hnames' : ∀ name ∈ namesOf (read ++ segments),
        (build (read ++ segments)).names.contains name = true :=
      fun name hname => (contains_names_build hnames name).2 hname
    rw [← htext, scan_textOf_append offset read hred hnames (isBrace_of_begins hbegins),
      scan_of_begins hbegins hnames'] at hscan
    cases hscan

/-! ## Compiling -/

theorem compile_textOf {segments : List Segment} (h : Canonical segments) :
    compile (textOf segments) = .ok (build segments) := by
  rcases canonical_iff.1 h with rfl | ⟨hne, hred, hnodup⟩
  · have hscan : scan 0 empty (textOf [.literal ""]).toList = .ok empty := by
      simp [scan_nil]
    rw [compile, hscan]
    rfl
  · have hscan : scan 0 empty (textOf segments).toList = .ok (build segments) :=
      scan_textOf 0 [] hred hnodup
    rw [compile, hscan]
    simp [segments_build, hne]

theorem exists_of_compile_eq_ok {raw : String} {t : PathTemplate} (h : compile raw = .ok t) :
    ∃ segments, Canonical segments ∧ textOf segments = raw ∧ t = build segments := by
  cases hscan : scan 0 empty raw.toList with
  | error e =>
      simp [compile, hscan] at h
  | ok scanned =>
      obtain ⟨segments, hred, hnodup, htext, hscanned⟩ :=
        exists_of_scan_eq_ok [] List.nodup_nil hscan
      have hraw : textOf segments = raw := String.toList_inj.1 htext
      have hbuild : scanned = build segments := hscanned
      subst hbuild
      simp only [compile, hscan, segments_build] at h
      cases segments with
      | nil =>
          cases h
          exact ⟨[.literal ""], canonical_iff.2 (.inl rfl), hraw, rfl⟩
      | cons s rest =>
          cases h
          exact ⟨s :: rest, canonical_iff.2 (.inr ⟨List.cons_ne_nil _ _, hred, hnodup⟩), hraw,
            rfl⟩

theorem nodup_placeholders_of_compile {raw : String} {t : PathTemplate} (h : compile raw = .ok t) :
    t.placeholders.Nodup := by
  rcases exists_of_compile_eq_ok h with ⟨segments, hcanonical, -, rfl⟩
  rw [placeholders, segments_build]
  exact hcanonical.distinct

theorem isTemplateText_iff {raw : String} :
    IsTemplateText raw ↔ ∃ segments, Canonical segments ∧ textOf segments = raw := by
  constructor
  · rintro ⟨segments, hvalid, hnodup, rfl⟩
    rcases exists_reduced hvalid with ⟨reduced, hred, hnames, htext⟩
    by_cases hnil : reduced = []
    · subst hnil
      exact ⟨[.literal ""], canonical_iff.2 (.inl rfl), htext⟩
    · exact ⟨reduced, canonical_iff.2 (.inr ⟨hnil, hred, hnames ▸ hnodup⟩), htext⟩
  · rintro ⟨segments, hcanonical, htext⟩
    exact ⟨segments, hcanonical.valid, hcanonical.distinct, htext⟩

/-- An opening brace stands in a text exactly where a placeholder does. -/
theorem mem_toList_textOf_iff {segments : List Segment} (hvalid : ∀ s ∈ segments, s.Valid) :
    '\x7b' ∈ (textOf segments).toList ↔ ∃ name, Segment.placeholder name ∈ segments := by
  induction segments with
  | nil =>
      simp
  | cons s rest ih =>
      have hrest := ih fun t ht => hvalid t (List.mem_cons_of_mem _ ht)
      cases s with
      | placeholder name =>
          simp
      | literal text =>
          have hplain : '\x7b' ∉ text.toList := by
            intro hmem
            cases hvalid _ List.mem_cons_self _ hmem
          simp [hplain, hrest]

/-- What a template tells of its text. -/
structure Decomposes (t : PathTemplate) (raw : String) : Prop where
  canonical : Canonical t.segments
  text_eq : t.text = raw
  /-- There is no other way to cut the text. -/
  unique : ∀ segments, Canonical segments → textOf segments = raw → segments = t.segments
  /-- The index leads from each name to its place and knows no other name. -/
  index : ∀ name i, t.names.find? name = some i ↔ t.segments[i]? = some (.placeholder name)
  /-- The names listed are those of the index, each before those that stand behind it. -/
  listed : ∀ name, name ∈ t.placeholders ↔ ∃ i, t.position? name = some i
  ordered : t.placeholders.Pairwise fun a b =>
    ∃ i j, t.position? a = some i ∧ t.position? b = some j ∧ i < j
  static : t.isStatic = true ↔ '\x7b' ∉ raw.toList

theorem decomposes_build {segments : List Segment} (h : Canonical segments) :
    Decomposes (build segments) (textOf segments) := by
  have hindex := find?_names_build h.distinct
  exact {
    canonical := (segments_build segments).symm ▸ h
    text_eq := text_build segments
    unique := by
      -- compilation is a function, so equal texts come from equal lists
      intro others hothers htext
      have hcompile := compile_textOf hothers
      rw [htext, compile_textOf h] at hcompile
      rw [Except.ok.inj hcompile, segments_build]
    index := by
      intro name i
      rw [segments_build]
      exact hindex name i
    listed := by
      intro name
      rw [placeholders, segments_build, ← namesOf, mem_namesOf, List.mem_iff_getElem?]
      exact exists_congr fun i => (hindex name i).symm
    ordered := by
      rw [placeholders, segments_build, List.pairwise_filterMap, List.pairwise_iff_getElem]
      intro i j hi hj hij a ha b hb
      have hplace : ∀ {k name} (hk : k < segments.length), segments[k].name? = some name →
          (build segments).position? name = some k := by
        intro k name hk hname
        refine (hindex name k).2 ?_
        rw [List.getElem?_eq_getElem hk]
        cases hs : segments[k] with
        | literal text =>
            rw [hs] at hname
            cases hname
        | placeholder other =>
            rw [hs] at hname
            cases hname
            rfl
      exact ⟨i, j, hplace hi ha, hplace hj hb, hij⟩
    static := by
      rw [isStatic, Dictionary.isEmpty_iff, mem_toList_textOf_iff h.valid, not_exists]
      refine forall_congr' fun name => ?_
      rw [Option.eq_none_iff_forall_ne_some, List.mem_iff_getElem?, not_exists]
      exact forall_congr' fun i => not_congr (hindex name i) }

/-- A text compiles exactly if it is a template text; the template then has the one canonical
segment list of that text, with its index, and shows as the text.  Conversely, the text of every
canonical segment list compiles to just these segments. -/
theorem compile_canonical_iff :
    (∀ raw, ((∃ t, compile raw = .ok t) ↔ IsTemplateText raw) ∧
      ∀ t, compile raw = .ok t → Decomposes t raw) ∧
    (∀ segments, Canonical segments →
      ∃ t, compile (textOf segments) = .ok t ∧ t.segments = segments ∧
        Decomposes t (textOf segments)) := by
  refine ⟨fun raw => ⟨?_, ?_⟩, ?_⟩
  · rw [isTemplateText_iff]
    constructor
    · rintro ⟨t, ht⟩
      rcases exists_of_compile_eq_ok ht with ⟨segments, hcanonical, htext, -⟩
      exact ⟨segments, hcanonical, htext⟩
    · rintro ⟨segments, hcanonical, rfl⟩
      exact ⟨build segments, compile_textOf hcanonical⟩
  · intro t ht
    rcases exists_of_compile_eq_ok ht with ⟨segments, hcanonical, rfl, rfl⟩
    exact decomposes_build hcanonical
  · intro segments hcanonical
    exact ⟨build segments, compile_textOf hcanonical, segments_build segments,
      decomposes_build hcanonical⟩

end PathTemplate

end RestTemplates
