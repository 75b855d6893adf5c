import RestTemplates.Proofs.Fallible
import RestTemplates.Proofs.Percent
import RestTemplates.Proofs.SplitOn
import RestTemplates.Proofs.Template.Grammar

/-!
# Cells — the slash-delimited pieces of a path template

A template is a sequence of symbols, characters and holes, and a slash of its text cuts it into
cells.  A written value has no slash, so filling the holes of a template and cutting the text gives
what filling each cell gives.

This module proves:

* `render_eq_ok_iff`, rendering fills the holes with the written values,
* `splitOn_fill`, filling goes cell by cell.
-/

namespace RestTemplates

/-- A character of the text of a template, or a hole for the value of a name. -/
inductive Symbol
  | char (c : Char)
  | hole (name : String)
  deriving DecidableEq, Repr

def Symbol.name? : Symbol → Option String
  | .char _ => none
  | .hole name => some name

def Segment.symbols : Segment → List Symbol
  | .literal text => text.toList.map .char
  | .placeholder name => [.hole name]

namespace PathTemplate

def symbolsOf (segments : List Segment) : List Symbol := segments.flatMap Segment.symbols

/-- The pieces of a template between its slashes. -/
def cells (t : PathTemplate) : List (List Symbol) := (symbolsOf t.segments).splitOn (.char '/')

/-- The names of the holes, in order. -/
def holes (symbols : List Symbol) : List String := symbols.filterMap Symbol.name?

theorem holes_symbolsOf (segments : List Segment) :
    holes (symbolsOf segments) = namesOf segments := by
  induction segments with
  | nil => rfl
  | cons s rest ih =>
      rw [symbolsOf, List.flatMap_cons, ← symbolsOf, holes, List.filterMap_append, ← holes, ← holes,
        ih]
      cases s with
      | literal text => simp [holes, Segment.symbols, List.filterMap_map, Symbol.name?]
      | placeholder name => simp [holes, Segment.symbols, Symbol.name?]

/-- The holes of a cell are holes of the template, each of them once. -/
theorem holes_sublist_of_mem_cells {t : PathTemplate} {cell : List Symbol} (h : cell ∈ t.cells) :
    (holes cell).Sublist t.placeholders := by
  have hsub := (sublist_of_mem_splitOn h).filterMap Symbol.name?
  rwa [← holes, ← holes, holes_symbolsOf] at hsub

/-! ## Filling -/

def fillSymbol (written : String → List Char) : Symbol → List Char
  | .char c => [c]
  | .hole name => written name

/-- The text of some symbols, given what is written for each name. -/
def fill (written : String → List Char) (symbols : List Symbol) : List Char :=
  symbols.flatMap (fillSymbol written)

theorem fill_cons (written : String → List Char) (s : Symbol) (symbols : List Symbol) :
    fill written (s :: symbols) = fillSymbol written s ++ fill written symbols :=
  List.flatMap_cons

theorem fill_append (written : String → List Char) (symbols others : List Symbol) :
    fill written (symbols ++ others) = fill written symbols ++ fill written others :=
  List.flatMap_append

theorem fill_congr {written written' : String → List Char} {symbols : List Symbol}
    (h : ∀ name ∈ holes symbols, written name = written' name) :
    fill written symbols = fill written' symbols := by
  induction symbols with
  | nil => rfl
  | cons s symbols ih =>
      rw [fill_cons, fill_cons, ih fun name hname => h name (List.mem_filterMap.2 ?_)]
      · cases s with
        | char c => rfl
        | hole name =>
            rw [fillSymbol, fillSymbol, h name (List.mem_filterMap.2 ⟨_, List.mem_cons_self, rfl⟩)]
      · rcases List.mem_filterMap.1 hname with ⟨other, hother, hlabel⟩
        exact ⟨other, List.mem_cons_of_mem _ hother, hlabel⟩

theorem fill_map_char (written : String → List Char) (text : List Char) :
    fill written (text.map .char) = text := by
  simp [fill, List.flatMap_map, fillSymbol]

/-- Filling goes cell by cell. -/
theorem splitOn_fill {written : String → List Char} (h : ∀ name, '/' ∉ written name)
    (symbols : List Symbol) :
    (fill written symbols).splitOn '/' = (symbols.splitOn (.char '/')).map (fill written) := by
  induction symbols with
  | nil => rfl
  | cons s symbols ih =>
      rw [fill_cons, List.splitOn_cons_eq_if_modifyHead]
      by_cases hs : s = .char '/'
      · -- a slash of the template ends a cell, and a segment of the text
        have hhead : ('/' :: fill written symbols).splitOn '/' =
            [] :: (fill written symbols).splitOn '/' :=
          List.splitOn_append_cons_self_of_not_mem List.not_mem_nil _
        rw [hs, fillSymbol, List.singleton_append, hhead, ih]
        simp [fill]
      · -- any other symbol adds to the first cell, and what it is filled with to the first segment
        have hfree : '/' ∉ fillSymbol written s := by
          cases s with
          | char c =>
              intro hmem
              exact hs (congrArg Symbol.char (List.mem_singleton.1 hmem).symm)
          | hole name => exact h name
        rw [splitOn_append_of_not_mem hfree, ih, if_neg (by simpa using hs)]
        cases symbols.splitOn (.char '/') with
        | nil => rfl
        | cons cell more => simp [fill_cons]

/-! ## Rendering -/

/-- A name is bound to a value that is no dot segment. -/
def Accepts (params : PathParams) (name : String) : Prop :=
  ∃ value, params.find? name = some value ∧ isDotSegment value = false

/-- What is written for a name. -/
def writtenOf (values : String → String) (name : String) : List Char :=
  (encodeValue (values name)).toList

/-- What is written for a name that is bound. -/
def written (params : PathParams) : String → List Char :=
  writtenOf fun name => (params.find? name).getD ""

theorem renderSegment_of_accepts {params : PathParams} {s : Segment}
    (h : ∀ name ∈ s.name?, Accepts params name) :
    ∃ text, renderSegment params s = .ok text ∧ text.toList = fill (written params) s.symbols := by
  cases s with
  | literal text => exact ⟨text, rfl, (fill_map_char _ _).symm⟩
  | placeholder name =>
      rcases h name rfl with ⟨value, hvalue, hdot⟩
      refine ⟨encodeValue value, ?_, ?_⟩
      · simp [renderSegment, hvalue, hdot]
      · simp [fill, Segment.symbols, fillSymbol, written, writtenOf, hvalue]

theorem accepts_of_renderSegment {params : PathParams} {s : Segment} {text : String}
    (h : renderSegment params s = .ok text) : ∀ name ∈ s.name?, Accepts params name := by
  intro name hname
  cases s with
  | literal text => cases hname
  | placeholder other =>
      cases hname
      rw [renderSegment] at h
      cases hvalue : params.find? name with
      | none => simp [hvalue] at h
      | some value =>
          cases hdot : isDotSegment value with
          | true => simp [hvalue, hdot] at h
          | false => exact ⟨value, hvalue, hdot⟩

theorem mapM_renderSegment_of_accepts {params : PathParams} {segments : List Segment}
    (h : ∀ name ∈ namesOf segments, Accepts params name) :
    ∃ texts, segments.mapM (renderSegment params) = .ok texts ∧
      (String.join texts).toList = fill (written params) (symbolsOf segments) := by
  induction segments with
  | nil => exact ⟨[], rfl, by simp [fill, symbolsOf]⟩
  | cons s rest ih =>
      have hs : ∀ name ∈ s.name?, Accepts params name := by
        intro name hname
        exact h name (List.mem_filterMap.2 ⟨s, List.mem_cons_self, hname⟩)
      have hrest : ∀ name ∈ namesOf rest, Accepts params name := by
        intro name hname
        exact h name ((List.sublist_cons_self s rest).filterMap Segment.name? |>.subset hname)
      rcases renderSegment_of_accepts hs with ⟨text, htext, hfill⟩
      rcases ih hrest with ⟨texts, htexts, hfills⟩
      refine ⟨text :: texts, ?_, ?_⟩
      · rw [List.mapM_cons, htext, htexts]
        rfl
      · rw [symbolsOf, List.flatMap_cons, ← symbolsOf, fill_append, ← hfill, ← hfills]
        simp

theorem accepts_of_mapM_renderSegment {params : PathParams} {segments : List Segment}
    {texts : List String} (h : segments.mapM (renderSegment params) = .ok texts) :
    ∀ name ∈ namesOf segments, Accepts params name := by
  intro name hname
  obtain ⟨s, hs, hlabel⟩ := List.mem_filterMap.1 hname
  obtain ⟨text, htext⟩ := Fallible.exists_of_mapM_eq_ok h s hs
  exact accepts_of_renderSegment htext name hlabel

/-- Rendering fills the holes with the written values, and fails only for want of such a value. -/
theorem render_eq_ok_iff {t : PathTemplate} {params : PathParams} {path : String} :
    t.render params = .ok path ↔
      (∀ name ∈ t.placeholders, Accepts params name) ∧
        path.toList = fill (written params) (symbolsOf t.segments) := by
  constructor
  · intro h
    rw [render] at h
    cases htexts : t.segments.mapM (renderSegment params) with
    | error e =>
        rw [htexts] at h
        cases h
    | ok texts =>
        have haccepts := accepts_of_mapM_renderSegment htexts
        rcases mapM_renderSegment_of_accepts haccepts with ⟨texts', htexts', hfill⟩
        rw [htexts] at h htexts'
        cases h
        cases htexts'
        exact ⟨haccepts, hfill⟩
  · rintro ⟨haccepts, hpath⟩
    rcases mapM_renderSegment_of_accepts haccepts with ⟨texts, htexts, hfill⟩
    rw [render, htexts, ← String.toList_inj.1 (hfill.trans hpath.symm)]
    rfl

end PathTemplate

end RestTemplates
