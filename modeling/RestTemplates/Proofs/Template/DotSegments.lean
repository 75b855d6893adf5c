import RestTemplates.Proofs.Template.Cells
import RestTemplates.Proofs.Url.Path

/-!
# Dot segments in templates — the cells that values can complete

A value that is a dot segment is refused, but a cell may also hold characters of its own, or more
than one value.  Such a cell spells a dot segment if its values supply what is missing: nothing at
all after two dots, or the last digit of an escaped dot.  What a value cannot supply is a percent
sign, which is written as an escape itself, and a dot segment of its own.

This file defines:

* `spells`, can the holes of a cell be filled so that it reads as a given text,
* `canMove`, can they be filled so that it is a dot segment.

It proves that `canMove` is exact: `exists_canMove_of_render` and `exists_render_of_canMove`.
-/

namespace RestTemplates

namespace PathTemplate

open UrlPath (isMove moves)
open Percent (isUnreserved escape hexDigit)

/-! ## Cells and the texts that they spell -/

/-- What a value can be written as within a dot segment. -/
def contributes (text : List Char) : Bool :=
  !text.contains '%' && text ≠ ['.'] && text ≠ ['.', '.']

/-- Can the holes be filled so that the symbols read as this text? -/
def spells : List Symbol → List Char → Bool
  | [], text => text.isEmpty
  | .char _ :: _, [] => false
  | .char c :: symbols, d :: text => c = d && spells symbols text
  | .hole _ :: symbols, text =>
    (List.range (text.length + 1)).any fun n =>
      contributes (text.take n) && spells symbols (text.drop n)

/-- Can the holes of a cell be filled so that it is a dot segment? -/
def canMove (cell : List Symbol) : Bool := moves.any (spells cell)

/-! ## Written values -/

theorem isUnreserved_bounds : ∀ b, isUnreserved b = true →
    b.toNat < 0x80 ∧ b ≠ 0x25 ∧ b ≠ 0x2F ∧ b ≠ 0x5C ∧ UrlPath.isKept b = true := by
  refine Percent.forall_byte ?_
  decide +kernel

/-- In a dot segment a percent sign begins an escaped dot. -/
theorem getElem?_of_percent : ∀ segment ∈ moves, ∀ n < segment.length, segment[n]? = some '%' →
    segment[n + 1]? = some '2' ∧ (segment[n + 2]? = some 'e' ∨ segment[n + 2]? = some 'E') := by
  decide

theorem hexDigit_ne : ∀ b, isUnreserved b = false →
    ¬ (hexDigit (b.toNat / 16) = '2' ∧
      (hexDigit (b.toNat % 16) = 'e' ∨ hexDigit (b.toNat % 16) = 'E')) := by
  refine Percent.forall_byte ?_
  decide +kernel

/-- A dot is unreserved, so no value is written with an escaped one. -/
theorem escape_not_mem_moves {b : UInt8} (hb : isUnreserved b = false) (before after : List Char) :
    before ++ (escape b ++ after) ∉ moves := by
  intro h
  have hdigits := getElem?_of_percent _ h before.length (by simp [escape]) (by simp [escape])
  refine hexDigit_ne b hb ?_
  simpa [escape, List.getElem?_append] using hdigits

theorem isSafe_isUnreserved : Percent.IsSafe isUnreserved := fun b hb =>
  ⟨(isUnreserved_bounds b hb).1, (isUnreserved_bounds b hb).2.1⟩

theorem exists_escape_of_mem {bytes : Bytes} (h : '%' ∈ Percent.encode isUnreserved bytes) :
    ∃ b before after, isUnreserved b = false ∧
      Percent.encode isUnreserved bytes = before ++ (escape b ++ after) := by
  rcases List.mem_flatMap.1 h with ⟨b, hb, hpercent⟩
  rcases List.append_of_mem hb with ⟨front, back, rfl⟩
  have hkeep : isUnreserved b = false := by
    refine Bool.eq_false_iff.2 ?_
    intro hkeep
    have hbounds := isUnreserved_bounds b hkeep
    rw [Percent.encodeByte, if_pos hkeep] at hpercent
    have hne : Char.ofNat b.toNat ≠ '%' := Utf8.ofNat_toNat_ne hbounds.1 hbounds.2.1
    exact hne (List.mem_singleton.1 hpercent).symm
  refine ⟨b, Percent.encode isUnreserved front, Percent.encode isUnreserved back, hkeep, ?_⟩
  simp [Percent.encode, Percent.encodeByte, hkeep]

/-- Written values hold nothing that normalization changes, and no slash. -/
theorem isPlain_of_mem_encodeValue {value : String} {c : Char}
    (h : c ∈ (encodeValue value).toList) : UrlPath.IsPlain c ∧ c ≠ '/' := by
  rw [encodeValue, String.toList_ofList] at h
  rcases List.mem_flatMap.1 h with ⟨b, -, hc⟩
  rcases Percent.mem_encodeByte hc with rfl | ⟨n, hn, rfl⟩ | ⟨hkeep, rfl⟩
  · decide
  · have hslash : ∀ n < 16, hexDigit n ≠ '/' := by decide
    exact ⟨UrlPath.isPlain_hexDigit n hn, hslash n hn⟩
  · obtain ⟨hlow, -, hslash, hbackslash, hkept⟩ := isUnreserved_bounds b hkeep
    exact ⟨UrlPath.isPlain_of_isKept hkept hbackslash, Utf8.ofNat_toNat_ne hlow hslash⟩

theorem utf8_encodeValue (value : String) :
    Utf8.encode (encodeValue value) = Utf8.asciiBytes (encodeValue value).toList := by
  have hascii : ∀ c ∈ (encodeValue value).toList, c.toNat < 0x80 := fun c hc =>
    (isPlain_of_mem_encodeValue hc).1.1
  rw [← Utf8.encode_ofList_of_ascii hascii, String.ofList_toList]

/-- A written value is read back as the bytes of the value. -/
theorem decode_encodeValue (value : String) :
    Percent.decode (Utf8.asciiBytes (encodeValue value).toList) = Utf8.encode value := by
  rw [encodeValue, String.toList_ofList]
  exact Percent.decode_encode isSafe_isUnreserved _

/-- A value that is written without escapes is written as it is. -/
theorem encodeValue_eq_self {value : String} (h : '%' ∉ (encodeValue value).toList) :
    encodeValue value = value := by
  have hbytes : 0x25 ∉ Utf8.asciiBytes (encodeValue value).toList := by
    intro hmem
    rcases List.mem_map.1 hmem with ⟨c, hc, hbyte⟩
    have hlow := (isPlain_of_mem_encodeValue hc).1.1
    have hnum : c.toNat = 0x25 := by
      have htoNat := congrArg UInt8.toNat hbyte
      simp at htoNat
      omega
    rw [← Char.ofNat_toNat c, hnum] at hc
    exact h hc
  refine Utf8.encode_injective ?_
  rw [utf8_encodeValue, ← decode_encodeValue value, Percent.decode_of_not_mem hbytes]

theorem contributes_encodeValue {value : String} {before after : List Char}
    (hdot : isDotSegment value = false)
    (h : before ++ ((encodeValue value).toList ++ after) ∈ moves) :
    contributes (encodeValue value).toList = true := by
  have hpercent : '%' ∉ (encodeValue value).toList := by
    intro hmem
    -- the escape that the sign begins would stand in the dot segment as well
    rw [encodeValue, String.toList_ofList] at hmem h
    rcases exists_escape_of_mem hmem with ⟨b, front, back, hb, hwritten⟩
    refine escape_not_mem_moves hb (before ++ front) (back ++ after) ?_
    simpa [hwritten] using h
  -- so the value stands there as it is, and it is no dot segment of its own
  have hself := encodeValue_eq_self hpercent
  rw [isDotSegment, Bool.or_eq_false_iff, decide_eq_false_iff_not, decide_eq_false_iff_not] at hdot
  rw [hself] at hpercent ⊢
  simp only [contributes, Bool.and_eq_true, Bool.not_eq_true', decide_eq_true_eq]
  refine ⟨⟨by simpa using hpercent, ?_⟩, ?_⟩
  · intro hone
    exact hdot.1 (String.toList_inj.1 hone)
  · intro htwo
    exact hdot.2 (String.toList_inj.1 htwo)

/-! ## What values can complete -/

/-- A cell that accepted values make part of a dot segment can be filled so. -/
theorem spells_fill {params : PathParams} {cell : List Symbol} (before : List Char)
    (haccepts : ∀ name ∈ holes cell, Accepts params name)
    (h : before ++ fill (written params) cell ∈ moves) :
    spells cell (fill (written params) cell) = true := by
  induction cell generalizing before with
  | nil => rfl
  | cons s cell ih =>
      have hrest : ∀ name ∈ holes cell, Accepts params name := by
        intro name hname
        exact haccepts name (((List.sublist_cons_self s cell).filterMap Symbol.name?).subset hname)
      rw [fill_cons] at h ⊢
      have hcell : spells cell (fill (written params) cell) = true := by
        refine ih (before ++ fillSymbol (written params) s) hrest ?_
        rwa [List.append_assoc]
      cases s with
      | char c => simp [fillSymbol, spells, hcell]
      | hole name =>
          rcases haccepts name (List.mem_filterMap.2 ⟨_, List.mem_cons_self, rfl⟩) with
            ⟨value, hvalue, hdot⟩
          have hwritten : written params name = (encodeValue value).toList := by
            simp [written, writtenOf, hvalue]
          rw [fillSymbol, hwritten] at h ⊢
          rw [spells, List.any_eq_true]
          -- the value takes the place of the hole, and the other symbols read as the rest
          refine ⟨(encodeValue value).toList.length, ?_, ?_⟩
          · rw [List.mem_range, List.length_append]
            omega
          · rw [List.take_left, List.drop_left, contributes_encodeValue hdot h, hcell]
            rfl

/-- A cell has a dot segment in it once its holes are filled only if `canMove` says so. -/
theorem canMove_of_fill {params : PathParams} {cell : List Symbol}
    (haccepts : ∀ name ∈ holes cell, Accepts params name)
    (h : isMove (fill (written params) cell) = true) : canMove cell = true := by
  have hmoves := UrlPath.isMove_iff.1 h
  exact List.any_eq_true.2 ⟨_, hmoves, spells_fill [] haccepts hmoves⟩

/-- A character that is written as it is. -/
def IsVerbatim (c : Char) : Prop := c.toNat < 0x80 ∧ isUnreserved (UInt8.ofNat c.toNat) = true

/-- The characters of dot segments are written as they are, but for the percent sign. -/
theorem isVerbatim_of_mem_moves {segment : List Char} (h : segment ∈ moves) :
    ∀ c ∈ segment, c ≠ '%' → IsVerbatim c := by
  have hall : moves.all (fun segment => segment.all fun c =>
      c = '%' || (decide (c.toNat < 0x80) && isUnreserved (UInt8.ofNat c.toNat))) = true := by
    decide
  intro c hc hne
  have hchar := List.all_eq_true.1 (List.all_eq_true.1 hall segment h) c hc
  simpa [hne, IsVerbatim] using hchar

/-- What contributes to a dot segment is a value that is accepted and written as it is. -/
theorem encodeValue_of_contributes {text : List Char} (h : contributes text = true)
    (hchars : ∀ c ∈ text, c ≠ '%' → IsVerbatim c) :
    isDotSegment (String.ofList text) = false ∧
      (encodeValue (String.ofList text)).toList = text := by
  simp only [contributes, Bool.and_eq_true, Bool.not_eq_true', decide_eq_true_eq] at h
  obtain ⟨⟨hpercent, hone⟩, htwo⟩ := h
  constructor
  · rw [isDotSegment, Bool.or_eq_false_iff, decide_eq_false_iff_not, decide_eq_false_iff_not,
      ← String.toList_inj, ← String.toList_inj, String.toList_ofList]
    exact ⟨hone, htwo⟩
  · rw [encodeValue, String.toList_ofList]
    refine Percent.encode_of_kept ?_
    intro c hc
    refine hchars c hc ?_
    rintro rfl
    simp [hc] at hpercent

theorem fill_update {values : String → String} {name value : String} {cell : List Symbol}
    (h : name ∉ holes cell) :
    fill (writtenOf (Function.update values name value)) cell = fill (writtenOf values) cell := by
  refine fill_congr ?_
  intro other hother
  have hne : other ≠ name := fun heq => h (heq ▸ hother)
  rw [writtenOf, writtenOf, Function.update_of_ne hne]

/-- A cell that spells a text made of these characters reads so for some accepted values. -/
theorem exists_values_of_spells {cell : List Symbol} {text : List Char}
    (hnodup : (holes cell).Nodup) (hchars : ∀ c ∈ text, c ≠ '%' → IsVerbatim c)
    (h : spells cell text = true) :
    ∃ values : String → String, (∀ name, isDotSegment (values name) = false) ∧
      fill (writtenOf values) cell = text := by
  induction cell generalizing text with
  | nil =>
      refine ⟨fun _ => "x", fun _ => rfl, ?_⟩
      simpa [spells, fill] using h.symm
  | cons s cell ih =>
      cases s with
      | char c =>
          cases text with
          | nil => cases h
          | cons d text =>
              simp only [spells, Bool.and_eq_true, decide_eq_true_eq] at h
              obtain ⟨rfl, h⟩ := h
              rcases ih hnodup (fun e he => hchars e (List.mem_cons_of_mem _ he)) h with
                ⟨values, hvalues, hfill⟩
              exact ⟨values, hvalues, by rw [fill_cons, hfill, fillSymbol, List.singleton_append]⟩
      | hole name =>
          obtain ⟨hfresh, hnodup⟩ := List.nodup_cons.1 hnodup
          rw [spells, List.any_eq_true] at h
          rcases h with ⟨n, -, h⟩
          rw [Bool.and_eq_true] at h
          have hrest := ih hnodup (fun c hc => hchars c (List.mem_of_mem_drop hc)) h.2
          rcases hrest with ⟨values, hvalues, hfill⟩
          have hvalue := encodeValue_of_contributes h.1 fun c hc =>
            hchars c (List.mem_of_mem_take hc)
          -- the name occurs in no other hole of the cell, so its value is still free
          refine ⟨Function.update values name (String.ofList (text.take n)), ?_, ?_⟩
          · intro other
            by_cases hother : other = name
            · rw [hother, Function.update_self]
              exact hvalue.1
            · rw [Function.update_of_ne hother]
              exact hvalues other
          · rw [fill_cons, fill_update hfresh, hfill, fillSymbol, writtenOf, Function.update_self,
              hvalue.2, List.take_append_drop]

/-! ## Cells of one kind -/

theorem spells_map_char (text other : List Char) :
    spells (text.map .char) other = decide (text = other) := by
  induction text generalizing other with
  | nil => cases other <;> rfl
  | cons c text ih =>
      cases other with
      | nil => rfl
      | cons d other => simp [spells, ih]

/-- Text alone is a dot segment or is none, whatever the values are. -/
theorem canMove_map_char (text : List Char) : canMove (text.map .char) = isMove text := by
  rw [Bool.eq_iff_iff, canMove, List.any_eq_true, UrlPath.isMove_iff]
  simp [spells_map_char]

/-- A value alone is no dot segment, since it would have been refused. -/
theorem canMove_hole (name : String) : canMove [.hole name] = false := by
  rfl

/-! ## Templates -/

theorem not_mem_writtenOf (values : String → String) (name : String) :
    '/' ∉ writtenOf values name := by
  intro h
  exact (isPlain_of_mem_encodeValue h).2 rfl

/-- The segments of a rendered path are the filled cells. -/
theorem splitOn_of_render {t : PathTemplate} {params : PathParams} {path : String}
    (h : t.render params = .ok path) :
    path.toList.splitOn '/' = t.cells.map (fill (written params)) := by
  rw [(render_eq_ok_iff.1 h).2]
  exact splitOn_fill (not_mem_writtenOf _) _

/-- A rendered path has a dot segment only if a cell of the template can be filled so. -/
theorem exists_canMove_of_render {t : PathTemplate} {params : PathParams} {path : String}
    (hrender : t.render params = .ok path)
    (h : ∃ segment ∈ path.toList.splitOn '/', isMove segment = true) :
    ∃ cell ∈ t.cells, canMove cell = true := by
  rw [splitOn_of_render hrender] at h
  rcases h with ⟨segment, hsegment, hmove⟩
  rcases List.mem_map.1 hsegment with ⟨cell, hcell, rfl⟩
  have haccepts : ∀ name ∈ holes cell, Accepts params name := by
    intro name hname
    exact (render_eq_ok_iff.1 hrender).1 name ((holes_sublist_of_mem_cells hcell).subset hname)
  exact ⟨cell, hcell, canMove_of_fill haccepts hmove⟩

/-- The bindings of the placeholders of a template to some values. -/
def bindings (t : PathTemplate) (values : String → String) : PathParams :=
  .ofList (t.placeholders.map fun name => (name, values name))

theorem exists_render_bindings (t : PathTemplate) (values : String → String)
    (h : ∀ name, isDotSegment (values name) = false) :
    ∃ path, t.render (t.bindings values) = .ok path := by
  refine ⟨String.ofList (fill (written (t.bindings values)) (symbolsOf t.segments)), ?_⟩
  refine render_eq_ok_iff.2 ⟨?_, String.toList_ofList⟩
  intro name hname
  exact ⟨values name, Dictionary.find?_ofList_map values hname, h name⟩

theorem fill_bindings {t : PathTemplate} (values : String → String) {symbols : List Symbol}
    (h : holes symbols ⊆ t.placeholders) :
    fill (written (t.bindings values)) symbols = fill (writtenOf values) symbols := by
  refine fill_congr ?_
  intro name hname
  have hfind : (t.bindings values).find? name = some (values name) :=
    Dictionary.find?_ofList_map values (h hname)
  rw [written, writtenOf, writtenOf, hfind, Option.getD_some]

/-- Each cell that can be filled so is a dot segment for some bindings. -/
theorem exists_render_of_canMove {t : PathTemplate} (hnodup : t.placeholders.Nodup)
    (h : ∃ cell ∈ t.cells, canMove cell = true) :
    ∃ params path, t.render params = .ok path ∧
      ∃ segment ∈ path.toList.splitOn '/', isMove segment = true := by
  rcases h with ⟨cell, hcell, hmove⟩
  rcases List.any_eq_true.1 hmove with ⟨text, htext, hspells⟩
  have hholes := (holes_sublist_of_mem_cells hcell).nodup hnodup
  rcases exists_values_of_spells hholes (isVerbatim_of_mem_moves htext) hspells with
    ⟨values, hvalues, hfill⟩
  rcases exists_render_bindings t values hvalues with ⟨path, hpath⟩
  refine ⟨t.bindings values, path, hpath, text, ?_, UrlPath.isMove_iff.2 htext⟩
  rw [splitOn_of_render hpath]
  have hcellFill := fill_bindings values (holes_sublist_of_mem_cells hcell).subset
  exact List.mem_map.2 ⟨cell, hcell, hcellFill.trans hfill⟩

end PathTemplate

end RestTemplates
