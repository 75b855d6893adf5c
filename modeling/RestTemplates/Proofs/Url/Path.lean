import RestTemplates.Proofs.Percent
import RestTemplates.Proofs.SplitOn
import RestTemplates.Url.Path

/-!
# Path normalization — the texts that are left alone

Normalization changes a path in four ways: it puts a slash in front, turns backslashes into slashes,
escapes or skips characters, and resolves dot segments.  The text that it gives has none of these
left, and resolving a dot segment only ever makes a path shorter.  So a text is left alone exactly
when nothing of the kind is in it.

This module proves:

* `isMove_iff`, the spellings of dot segments,
* `normalize_eq_self_iff`, the paths that normalization leaves alone.
-/

namespace RestTemplates

namespace UrlPath

/-! ## Characters -/

/-- The characters that stand in a normalized path. -/
def IsPlain (c : Char) : Prop :=
  c.toNat < 0x80 ∧ isKept (UInt8.ofNat c.toNat) = true ∧ c ≠ '\\'

instance (c : Char) : Decidable (IsPlain c) :=
  inferInstanceAs (Decidable (_ ∧ _ ∧ _))

/-- Every character of these segments may stand in a normalized path. -/
def ArePlain (segments : List (List Char)) : Prop :=
  ∀ segment ∈ segments, ∀ c ∈ segment, IsPlain c

theorem isPlain_slash : IsPlain '/' := by
  decide

theorem isPlain_percent : IsPlain '%' := by
  decide

theorem isPlain_hexDigit : ∀ n < 16, IsPlain (Percent.hexDigit n) := by
  decide

theorem isSkipped_of_isPlain {c : Char} (h : IsPlain c) : isSkipped c = false := by
  have hkept := h.2.1
  rw [isSkipped, Bool.or_eq_false_iff, Bool.or_eq_false_iff, decide_eq_false_iff_not,
    decide_eq_false_iff_not, decide_eq_false_iff_not]
  refine ⟨⟨?_, ?_⟩, ?_⟩
  · rintro rfl
    exact absurd hkept (by decide)
  · rintro rfl
    exact absurd hkept (by decide)
  · rintro rfl
    exact absurd hkept (by decide)

theorem encodeSegment_of_isPlain {segment : List Char} (h : ∀ c ∈ segment, IsPlain c) :
    encodeSegment segment = segment :=
  Percent.encode_of_kept fun c hc => ⟨(h c hc).1, (h c hc).2.1⟩

theorem isKept_lt : ∀ b, isKept b = true → b.toNat < 0x80 := by
  refine Percent.forall_byte ?_
  decide +kernel

theorem isPlain_of_isKept {b : UInt8} (h : isKept b = true) (hne : b ≠ 0x5C) :
    IsPlain (Char.ofNat b.toNat) := by
  have hlow := isKept_lt b h
  have hnum := Utf8.toNat_ofNat_of_ascii b.toNat hlow
  refine ⟨by omega, ?_, Utf8.ofNat_toNat_ne hlow hne⟩
  rwa [hnum, UInt8.ofNat_toNat]

theorem isPlain_of_mem_encodeSegment {segment : List Char} {c : Char} (h : '\\' ∉ segment)
    (hc : c ∈ encodeSegment segment) : IsPlain c := by
  rcases List.mem_flatMap.1 hc with ⟨b, hb, hc⟩
  rcases Percent.mem_encodeByte hc with rfl | ⟨n, hn, rfl⟩ | ⟨hkept, rfl⟩
  · exact isPlain_percent
  · exact isPlain_hexDigit n hn
  · refine isPlain_of_isKept hkept ?_
    rintro rfl
    rw [Utf8.encode, String.toList_ofList] at hb
    rcases List.mem_flatMap.1 hb with ⟨d, hd, hbyte⟩
    have hslash : d = '\\' := Utf8.eq_ofNat_of_mem_utf8EncodeChar (by decide) hbyte
    exact h (hslash ▸ hd)

/-! ## Moves -/

/-- A segment that is read as a move within the path. -/
def isMove (segment : List Char) : Bool := isDoubleDot segment || isSingleDot segment

/-- The spellings of one dot. -/
def dots : List (List Char) := [['.'], ['%', '2', 'e'], ['%', '2', 'E']]

/-- The segments of one dot and of two. -/
def moves : List (List Char) := dots ++ dots.flatMap fun dot => dots.map (dot ++ ·)

theorem dropDot?_eq_some_iff {segment rest : List Char} :
    dropDot? segment = some rest ↔ ∃ dot ∈ dots, segment = dot ++ rest := by
  constructor
  · intro h
    unfold dropDot? at h
    split at h
    all_goals cases h
    · exact ⟨['.'], by decide, rfl⟩
    · exact ⟨['%', '2', 'e'], by decide, rfl⟩
    · exact ⟨['%', '2', 'E'], by decide, rfl⟩
  · rintro ⟨dot, hdot, rfl⟩
    simp only [dots, List.mem_cons, List.not_mem_nil, or_false] at hdot
    rcases hdot with rfl | rfl | rfl <;> rfl

theorem isSingleDot_iff {segment : List Char} : isSingleDot segment = true ↔ segment ∈ dots := by
  rw [isSingleDot, decide_eq_true_iff, dropDot?_eq_some_iff]
  simp

theorem isDoubleDot_iff {segment : List Char} :
    isDoubleDot segment = true ↔ ∃ first ∈ dots, ∃ second ∈ dots, segment = first ++ second := by
  rw [isDoubleDot, decide_eq_true_iff, Option.bind_eq_some_iff]
  constructor
  · rintro ⟨rest, hfirst, hsecond⟩
    rcases dropDot?_eq_some_iff.1 hfirst with ⟨first, hdot, rfl⟩
    have hrest : isSingleDot rest = true := decide_eq_true hsecond
    exact ⟨first, hdot, rest, isSingleDot_iff.1 hrest, rfl⟩
  · rintro ⟨first, hfirst, second, hsecond, rfl⟩
    refine ⟨second, dropDot?_eq_some_iff.2 ⟨first, hfirst, rfl⟩, ?_⟩
    exact dropDot?_eq_some_iff.2 ⟨second, hsecond, (List.append_nil second).symm⟩

theorem isMove_iff {segment : List Char} : isMove segment = true ↔ segment ∈ moves := by
  rw [isMove, Bool.or_eq_true, isSingleDot_iff, isDoubleDot_iff, moves, List.mem_append,
    List.mem_flatMap, or_comm]
  simp only [List.mem_map, eq_comm]

theorem ne_nil_of_isMove {segment : List Char} (h : isMove segment = true) : segment ≠ [] := by
  rintro rfl
  exact absurd h (by decide)

theorem enter_of_not_isMove {segment : List Char} (reached : List (List Char))
    (h : isMove segment = false) : enter reached segment = encodeSegment segment :: reached := by
  rcases Bool.or_eq_false_iff.1 h with ⟨hdouble, hsingle⟩
  rw [enter, hdouble, hsingle]
  rfl

theorem close_of_isMove {segment : List Char} (reached : List (List Char))
    (h : isMove segment = true) : close reached segment = [] :: enter reached segment := by
  rw [close, enter]
  split
  · rfl
  · next hdouble =>
    have hsingle : isSingleDot segment = true := by
      simpa [isMove, hdouble] using h
    rw [if_pos hsingle, if_pos hsingle]

theorem close_of_not_isMove {segment : List Char} (reached : List (List Char))
    (h : isMove segment = false) : close reached segment = encodeSegment segment :: reached := by
  rcases Bool.or_eq_false_iff.1 h with ⟨hdouble, hsingle⟩
  rw [close, hdouble, hsingle]
  rfl

theorem foldl_enter_of_not_isMove {segments : List (List Char)} (reached : List (List Char))
    (h : ∀ segment ∈ segments, isMove segment = false)
    (hplain : ArePlain segments) :
    segments.foldl enter reached = segments.reverse ++ reached := by
  induction segments generalizing reached with
  | nil => rfl
  | cons segment rest ih =>
      rw [List.foldl_cons, enter_of_not_isMove reached (h segment List.mem_cons_self),
        encodeSegment_of_isPlain (hplain segment List.mem_cons_self),
        ih _ fun other hother => h other (List.mem_cons_of_mem _ hother)]
      · simp
      · intro other hother
        exact hplain other (List.mem_cons_of_mem _ hother)

/-! ## Lengths -/

theorem length_join_cons (segment : List Char) (segments : List (List Char)) :
    (join (segment :: segments)).length = segment.length + 1 + (join segments).length := by
  simp [join]
  omega

theorem length_join_append (segments others : List (List Char)) :
    (join (segments ++ others)).length = (join segments).length + (join others).length := by
  simp [join]

theorem length_join_reverse (segments : List (List Char)) :
    (join segments.reverse).length = (join segments).length := by
  induction segments with
  | nil => rfl
  | cons segment rest ih =>
      rw [List.reverse_cons, length_join_append, ih, length_join_cons, length_join_cons]
      simp [join]
      omega

theorem length_join_leave (reached : List (List Char)) :
    (join (leave reached)).length ≤ (join reached).length := by
  cases reached with
  | nil => exact Nat.le_refl _
  | cons last before =>
      rw [leave]
      split
      · exact Nat.le_refl _
      · rw [length_join_cons]
        omega

theorem length_join_enter_of_isMove {segment : List Char} (reached : List (List Char))
    (h : isMove segment = true) :
    (join (enter reached segment)).length ≤ (join reached).length := by
  rw [enter]
  split
  · exact length_join_leave reached
  · next hdouble =>
    have hsingle : isSingleDot segment = true := by
      simpa [isMove, hdouble] using h
    rw [if_pos hsingle]

theorem length_join_close_of_isMove {segment : List Char} (reached : List (List Char))
    (h : isMove segment = true) :
    (join (close reached segment)).length ≤ (join reached).length + 1 := by
  have henter := length_join_enter_of_isMove reached h
  rw [close_of_isMove reached h, length_join_cons]
  simp only [List.length_nil]
  omega

theorem length_join_enter_le {segment : List Char} (reached : List (List Char))
    (hplain : ∀ c ∈ segment, IsPlain c) :
    (join (enter reached segment)).length ≤ (join reached).length + (segment.length + 1) := by
  cases h : isMove segment with
  | true =>
      have hmove := length_join_enter_of_isMove reached h
      omega
  | false =>
      rw [enter_of_not_isMove reached h, encodeSegment_of_isPlain hplain, length_join_cons]
      omega

theorem length_join_close_le {segment : List Char} (reached : List (List Char))
    (hplain : ∀ c ∈ segment, IsPlain c) :
    (join (close reached segment)).length ≤ (join reached).length + (segment.length + 1) := by
  cases h : isMove segment with
  | true =>
      have hmove := length_join_close_of_isMove reached h
      omega
  | false =>
      rw [close_of_not_isMove reached h, encodeSegment_of_isPlain hplain, length_join_cons]
      omega

theorem length_join_foldl_enter_le {segments : List (List Char)} (reached : List (List Char))
    (hplain : ArePlain segments) :
    (join (segments.foldl enter reached)).length ≤
      (join reached).length + (join segments).length := by
  induction segments generalizing reached with
  | nil => exact Nat.le_refl _
  | cons segment rest ih =>
      have hhead := length_join_enter_le reached (hplain segment List.mem_cons_self)
      have hrest := ih (enter reached segment) fun other hother =>
        hplain other (List.mem_cons_of_mem _ hother)
      rw [List.foldl_cons, length_join_cons]
      omega

/-- A move takes no room in the path that it leads to. -/
theorem length_join_foldl_enter_lt {segments : List (List Char)} (reached : List (List Char))
    (hplain : ArePlain segments)
    (h : ∃ segment ∈ segments, isMove segment = true) :
    (join (segments.foldl enter reached)).length <
      (join reached).length + (join segments).length := by
  induction segments generalizing reached with
  | nil =>
      rcases h with ⟨segment, hmem, -⟩
      cases hmem
  | cons segment rest ih =>
      -- the first move makes the path shorter, and nothing after it makes up for that
      have hplainRest : ArePlain rest := fun other hother =>
        hplain other (List.mem_cons_of_mem _ hother)
      rw [List.foldl_cons, length_join_cons]
      cases hmove : isMove segment with
      | true =>
          have hhead := length_join_enter_of_isMove reached hmove
          have hrest := length_join_foldl_enter_le (enter reached segment) hplainRest
          omega
      | false =>
          have hhead := length_join_enter_le reached (hplain segment List.mem_cons_self)
          have hlater : ∃ other ∈ rest, isMove other = true := by
            simpa [hmove] using h
          have hrest := ih (enter reached segment) hplainRest hlater
          omega

/-! ## Normalized paths -/

theorem close_ne_nil (reached : List (List Char)) (segment : List Char) :
    close reached segment ≠ [] := by
  cases h : isMove segment with
  | true => exact close_of_isMove reached h ▸ List.cons_ne_nil _ _
  | false => exact close_of_not_isMove reached h ▸ List.cons_ne_nil _ _

theorem head?_join {segments : List (List Char)} (h : segments ≠ []) :
    (join segments).head? = some '/' := by
  cases segments with
  | nil => exact absurd rfl h
  | cons segment rest => rfl

theorem head?_normalize (text : List Char) : (normalize text).head? = some '/' := by
  refine head?_join ?_
  rw [Ne, List.reverse_eq_nil_iff]
  exact close_ne_nil _ _

theorem mem_of_mem_leave {reached : List (List Char)} {segment : List Char}
    (h : segment ∈ leave reached) : segment ∈ reached := by
  cases reached with
  | nil => exact h
  | cons last before =>
      rw [leave] at h
      split at h
      · exact h
      · exact List.mem_cons_of_mem _ h

theorem arePlain_encodeSegment {reached : List (List Char)} {segment : List Char}
    (h : ArePlain reached) (hsegment : '\\' ∉ segment) :
    ArePlain (encodeSegment segment :: reached) :=
  List.forall_mem_cons.2 ⟨fun _ hc => isPlain_of_mem_encodeSegment hsegment hc, h⟩

theorem arePlain_enter {reached : List (List Char)} {segment : List Char}
    (h : ArePlain reached) (hsegment : '\\' ∉ segment) : ArePlain (enter reached segment) := by
  rw [enter]
  split
  · exact fun other hother => h other (mem_of_mem_leave hother)
  · split
    · exact h
    · exact arePlain_encodeSegment h hsegment

theorem arePlain_close {reached : List (List Char)} {segment : List Char}
    (h : ArePlain reached) (hsegment : '\\' ∉ segment) : ArePlain (close reached segment) := by
  cases hmove : isMove segment with
  | true =>
      rw [close_of_isMove reached hmove]
      exact List.forall_mem_cons.2 ⟨nofun, arePlain_enter h hsegment⟩
  | false =>
      rw [close_of_not_isMove reached hmove]
      exact arePlain_encodeSegment h hsegment

theorem arePlain_foldl_enter {segments reached : List (List Char)} (h : ArePlain reached)
    (hsegments : ∀ segment ∈ segments, '\\' ∉ segment) :
    ArePlain (segments.foldl enter reached) := by
  induction segments generalizing reached with
  | nil => exact h
  | cons segment rest ih =>
      have hhead := arePlain_enter h (hsegments segment List.mem_cons_self)
      exact ih hhead fun other hother => hsegments other (List.mem_cons_of_mem _ hother)

/-- Backslashes are slashes by the time a text is cut. -/
theorem not_mem_of_mem_split {text segment : List Char} (h : segment ∈ split text) :
    '\\' ∉ segment := by
  intro hmem
  have hslashed : '\\' ∈
      (text.filter fun c => !isSkipped c).map fun c => if c = '\\' then '/' else c := by
    rw [split] at h
    split at h
    · next rest hrest =>
      rw [hrest]
      exact List.mem_cons_of_mem _ ((sublist_of_mem_splitOn h).subset hmem)
    · exact (sublist_of_mem_splitOn h).subset hmem
  rcases List.mem_map.1 hslashed with ⟨c, -, hc⟩
  split at hc
  · exact absurd hc (by decide)
  · next hne => exact hne hc

theorem isPlain_normalize {text : List Char} {c : Char} (h : c ∈ normalize text) : IsPlain c := by
  have hinit : ArePlain ((split text).dropLast.foldl enter []) := by
    refine arePlain_foldl_enter nofun ?_
    intro segment hsegment
    exact not_mem_of_mem_split (List.dropLast_subset _ hsegment)
  have hlast : '\\' ∉ (split text).getLast?.getD [] := by
    cases hlast : (split text).getLast? with
    | none => exact List.not_mem_nil
    | some segment => exact not_mem_of_mem_split (List.mem_of_getLast? hlast)
  rcases List.mem_flatMap.1 h with ⟨segment, hsegment, hc⟩
  rcases List.mem_cons.1 hc with rfl | hc
  · exact isPlain_slash
  · exact arePlain_close hinit hlast segment (List.mem_reverse.1 hsegment) c hc

/-! ## Paths left alone -/

theorem join_eq_intercalate {segments : List (List Char)} (h : segments ≠ []) :
    join segments = '/' :: ['/'].intercalate segments := by
  induction segments with
  | nil => exact absurd rfl h
  | cons segment rest ih =>
      cases rest with
      | nil => simp [join]
      | cons next more =>
          have hrest : join (next :: more) = '/' :: ['/'].intercalate (next :: more) :=
            ih (List.cons_ne_nil _ _)
          rw [List.intercalate_cons_cons, join, List.flatMap_cons, ← join, hrest]
          simp

theorem join_splitOn (rest : List Char) : join (rest.splitOn '/') = '/' :: rest := by
  rw [join_eq_intercalate (List.splitOn_ne_nil _ _), List.intercalate_splitOn]

theorem split_of_isPlain {rest : List Char} (h : ∀ c ∈ rest, IsPlain c) :
    split ('/' :: rest) = rest.splitOn '/' := by
  have hplain : ∀ c ∈ '/' :: rest, IsPlain c := by
    intro c hc
    rcases List.mem_cons.1 hc with rfl | hc
    · exact isPlain_slash
    · exact h c hc
  have hfilter : ('/' :: rest).filter (fun c => !isSkipped c) = '/' :: rest := by
    refine List.filter_eq_self.2 ?_
    intro c hc
    rw [isSkipped_of_isPlain (hplain c hc)]
    rfl
  have hmap : ('/' :: rest).map (fun c => if c = '\\' then '/' else c) = '/' :: rest := by
    rw [List.map_congr_left fun c hc => if_neg (hplain c hc).2.2, List.map_id']
  rw [split, hfilter, hmap]
  rfl

theorem normalize_of_split {text : List Char} {before : List (List Char)} {last : List Char}
    (h : split text = before ++ [last]) :
    normalize text = join (close (before.foldl enter []) last).reverse := by
  rw [normalize, h, List.dropLast_concat, List.getLast?_concat, Option.getD_some]

theorem normalize_of_not_isMove {text last : List Char} {before : List (List Char)}
    (h : split text = before ++ [last]) (hplain : ArePlain (before ++ [last]))
    (hmove : ∀ segment ∈ before ++ [last], isMove segment = false) :
    normalize text = join (before ++ [last]) := by
  have hmem : last ∈ before ++ [last] := List.mem_append_right _ List.mem_cons_self
  have hbefore : before.foldl enter [] = before.reverse ++ [] :=
    foldl_enter_of_not_isMove [] (fun segment hs => hmove segment (List.mem_append_left _ hs))
      fun segment hs => hplain segment (List.mem_append_left _ hs)
  rw [normalize_of_split h, hbefore,
    close_of_not_isMove _ (hmove last hmem), encodeSegment_of_isPlain (hplain last hmem)]
  simp

theorem length_normalize_lt {text last : List Char} {before : List (List Char)}
    (h : split text = before ++ [last]) (hplain : ArePlain (before ++ [last]))
    (hmove : ∃ segment ∈ before ++ [last], isMove segment = true) :
    (normalize text).length < (join (before ++ [last])).length := by
  have hplainBefore : ArePlain before := fun segment hs =>
    hplain segment (List.mem_append_left _ hs)
  have hplainLast := hplain last (List.mem_append_right _ List.mem_cons_self)
  have hlast : (join [last]).length = last.length + 1 := by
    rw [length_join_cons]
    rfl
  have hnil : (join []).length = 0 := rfl
  rw [normalize_of_split h, length_join_reverse, length_join_append, hlast]
  rcases hmove with ⟨segment, hsegment, hmove⟩
  rcases List.mem_append.1 hsegment with hsegment | hsegment
  · have hshorter := length_join_foldl_enter_lt [] hplainBefore ⟨segment, hsegment, hmove⟩
    have hclose := length_join_close_le (before.foldl enter []) hplainLast
    omega
  · -- a move at the end leaves an empty segment, which is still shorter than the move
    have heq : segment = last := List.mem_singleton.1 hsegment
    have hne := List.length_pos_iff.2 (ne_nil_of_isMove (heq ▸ hmove))
    have hbefore := length_join_foldl_enter_le [] hplainBefore
    have hclose := length_join_close_of_isMove (before.foldl enter []) (heq ▸ hmove)
    omega

theorem normalize_slash_eq_self_iff {rest : List Char} (h : ∀ c ∈ rest, IsPlain c) :
    normalize ('/' :: rest) = '/' :: rest ↔
      ∀ segment ∈ rest.splitOn '/', isMove segment = false := by
  have hsplit := split_of_isPlain h
  have hjoin := join_splitOn rest
  have hplain : ArePlain (rest.splitOn '/') := fun segment hsegment c hc =>
    h c ((sublist_of_mem_splitOn hsegment).subset hc)
  rcases List.eq_nil_or_concat (rest.splitOn '/') with hnil | ⟨before, last, hlast⟩
  · exact absurd hnil (List.splitOn_ne_nil _ _)
  · rw [List.concat_eq_append] at hlast
    rw [hlast] at hsplit hjoin hplain ⊢
    constructor
    · intro hself segment hsegment
      refine Bool.eq_false_iff.2 ?_
      intro hmove
      -- a path that became shorter is not the path it was
      have hlt := length_normalize_lt hsplit hplain ⟨segment, hsegment, hmove⟩
      rw [hself, hjoin] at hlt
      exact Nat.lt_irrefl _ hlt
    · intro hmove
      rw [normalize_of_not_isMove hsplit hplain hmove, hjoin]

/-- Normalization leaves a path alone exactly if the path starts with a slash, holds only characters
that stand for themselves, and has no dot segment. -/
theorem normalize_eq_self_iff (text : List Char) :
    normalize text = text ↔
      text.head? = some '/' ∧ (∀ c ∈ text, IsPlain c) ∧
        ∀ segment ∈ text.splitOn '/', isMove segment = false := by
  have hsplit (rest : List Char) : ('/' :: rest).splitOn '/' = [] :: rest.splitOn '/' :=
    List.splitOn_append_cons_self_of_not_mem List.not_mem_nil rest
  constructor
  · intro h
    have hplain : ∀ c ∈ text, IsPlain c := fun c hc => isPlain_normalize (h.symm ▸ hc)
    rcases List.head?_eq_some_iff.1 (h ▸ head?_normalize text) with ⟨rest, rfl⟩
    have hrest : ∀ c ∈ rest, IsPlain c := fun c hc => hplain c (List.mem_cons_of_mem _ hc)
    refine ⟨rfl, hplain, ?_⟩
    rw [hsplit]
    exact List.forall_mem_cons.2 ⟨rfl, (normalize_slash_eq_self_iff hrest).1 h⟩
  · rintro ⟨hhead, hplain, hmove⟩
    rcases List.head?_eq_some_iff.1 hhead with ⟨rest, rfl⟩
    have hrest : ∀ c ∈ rest, IsPlain c := fun c hc => hplain c (List.mem_cons_of_mem _ hc)
    rw [hsplit] at hmove
    exact (normalize_slash_eq_self_iff hrest).2 (List.forall_mem_cons.1 hmove).2

end UrlPath

end RestTemplates
