/-!
# Splitting at a separator — pieces and what is put in front

Facts about `List.splitOn` and `List.intercalate` beside those of the core library: a piece is a
part of the list, in its order, and has no separator; a front without separators goes to the first
piece; and nothing stands in joined pieces but separators and what stands in the pieces.

A list can also be cut at its first separator only, which is what `CutAt` says.  There is one way to
do so, and `List.takeWhile` and `List.dropWhile` find it.
-/

namespace RestTemplates

variable {α : Type} [BEq α] {sep : α}

theorem sublist_of_mem_splitOn {xs piece : List α} (h : piece ∈ xs.splitOn sep) :
    piece.Sublist xs := by
  induction xs generalizing piece with
  | nil =>
      have hnil : piece = [] := by
        simpa using h
      exact hnil ▸ List.nil_sublist _
  | cons y ys ih =>
      rw [List.splitOn_cons_eq_if_modifyHead] at h
      split at h
      · rcases List.mem_cons.1 h with hnil | hrest
        · exact hnil ▸ List.nil_sublist _
        · exact (ih hrest).cons y
      · cases hpieces : ys.splitOn sep with
        | nil => exact absurd hpieces (List.splitOn_ne_nil sep ys)
        | cons first more =>
            rw [hpieces] at ih h
            rcases List.mem_cons.1 h with hfirst | hmore
            · exact hfirst ▸ (ih List.mem_cons_self).cons_cons y
            · exact (ih (List.mem_cons_of_mem _ hmore)).cons y

theorem not_mem_of_mem_splitOn [LawfulBEq α] {xs piece : List α} (h : piece ∈ xs.splitOn sep) :
    sep ∉ piece := by
  induction xs generalizing piece with
  | nil =>
      have hnil : piece = [] := by
        simpa using h
      exact hnil ▸ List.not_mem_nil
  | cons y ys ih =>
      rw [List.splitOn_cons_eq_if_modifyHead] at h
      split at h
      · rcases List.mem_cons.1 h with hnil | hrest
        · exact hnil ▸ List.not_mem_nil
        · exact ih hrest
      · next hy =>
        cases hpieces : ys.splitOn sep with
        | nil => exact absurd hpieces (List.splitOn_ne_nil sep ys)
        | cons first more =>
            rw [hpieces] at ih h
            rcases List.mem_cons.1 h with hfirst | hmore
            · -- what comes to the first piece is no separator
              have hne : sep ≠ y := fun heq => hy (beq_iff_eq.2 heq.symm)
              rw [hfirst, List.mem_cons, not_or]
              exact ⟨hne, ih List.mem_cons_self⟩
            · exact ih (List.mem_cons_of_mem _ hmore)

theorem splitOn_append_of_not_mem [LawfulBEq α] {xs : List α} (h : sep ∉ xs) (ys : List α) :
    (xs ++ ys).splitOn sep = (ys.splitOn sep).modifyHead (xs ++ ·) := by
  induction xs with
  | nil =>
      rw [List.nil_append]
      cases ys.splitOn sep <;> rfl
  | cons x xs ih =>
      have hne : (x == sep) = false := by
        refine beq_eq_false_iff_ne.2 ?_
        rintro rfl
        exact h List.mem_cons_self
      have hrest : sep ∉ xs := fun hmem => h (List.mem_cons_of_mem _ hmem)
      rw [List.cons_append, List.splitOn_cons_eq_if_modifyHead, hne, ih hrest]
      cases ys.splitOn sep <;> rfl

omit [BEq α] in
theorem mem_of_mem_intercalate {x : α} {pieces : List (List α)}
    (h : x ∈ [sep].intercalate pieces) : x = sep ∨ ∃ piece ∈ pieces, x ∈ piece := by
  induction pieces with
  | nil =>
      cases h
  | cons piece rest ih =>
      cases rest with
      | nil =>
          have hpiece : x ∈ piece := by
            simpa using h
          exact .inr ⟨piece, List.mem_cons_self, hpiece⟩
      | cons next more =>
          rw [List.intercalate_cons_cons, List.mem_append, List.mem_append] at h
          rcases h with (hpiece | hsep) | hrest
          · exact .inr ⟨piece, List.mem_cons_self, hpiece⟩
          · exact .inl (List.mem_singleton.1 hsep)
          · rcases ih hrest with hsep | ⟨other, hother, hx⟩
            · exact .inl hsep
            · exact .inr ⟨other, List.mem_cons_of_mem _ hother, hx⟩

/-! ## The first separator -/

/-- A list is cut at its first separator: what stands before it, and what stands behind it if there
is a separator at all. -/
structure CutAt (sep : α) (xs front : List α) (back? : Option (List α)) : Prop where
  free : sep ∉ front
  parts : xs = front ++ back?.elim [] (sep :: ·)

namespace CutAt

omit [BEq α]

theorem exists_parts (sep : α) (xs : List α) : ∃ front back?, CutAt sep xs front back? := by
  by_cases h : sep ∈ xs
  · obtain ⟨front, back, hparts, hfree⟩ := List.eq_append_cons_of_mem h
    exact ⟨front, some back, hfree, hparts⟩
  · exact ⟨xs, none, h, (List.append_nil xs).symm⟩

variable [DecidableEq α] {xs front : List α} {back? : Option (List α)}

/-- The cut is where the first separator is found. -/
theorem span_eq (h : CutAt sep xs front back?) :
    xs.takeWhile (· ≠ sep) = front ∧ xs.dropWhile (· ≠ sep) = back?.elim [] (sep :: ·) := by
  have hpass : ∀ x ∈ front, decide (x ≠ sep) = true := by
    intro x hx
    refine decide_eq_true ?_
    rintro rfl
    exact h.free hx
  rw [h.parts, List.takeWhile_append_of_pos hpass, List.dropWhile_append_of_pos hpass]
  cases back? <;> simp

/-- What stands behind the first separator, if there is one. -/
theorem drop_one_eq (h : CutAt sep xs front back?) :
    (xs.dropWhile (· ≠ sep)).drop 1 = back?.getD [] := by
  rw [h.span_eq.2]
  cases back? <;> rfl

theorem unique {front' : List α} {back?' : Option (List α)} (h : CutAt sep xs front back?)
    (h' : CutAt sep xs front' back?') : front = front' ∧ back? = back?' := by
  have hback : back?.elim [] (sep :: ·) = back?'.elim [] (sep :: ·) :=
    h.span_eq.2.symm.trans h'.span_eq.2
  refine ⟨h.span_eq.1.symm.trans h'.span_eq.1, ?_⟩
  cases back? <;> cases back?' <;> simp_all

end CutAt

end RestTemplates
