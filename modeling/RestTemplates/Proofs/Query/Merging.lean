import RestTemplates.Proofs.Query

/-!
# Merging queries — laws that hold key by key

Merging edits the query it looks keys up in, one group of the overrides after the other.  No key
occurs twice among these groups, so each of them meets the values that its key had at the start, and
what becomes of a key depends on nothing but the values of that key in both queries.  Every law of
merging is then a law of two optional lists.

This file defines:

* `Query.mergeGroup`, `Query.mergeInPlace` and `Query.mergedCopy`, the edits as programs on a state.

It proves:

* `values?_merge`, merging is local to each key,
* `merge_assoc`, `merge_self`, `empty_merge` and `merge_empty`,
* `run_mergeInPlace`, the edits come to the merged query, and `run_mergedCopy`, on a copy they leave
  the query as it was,
* `perm_pairs_merge_append`, appending loses no pair and adds none,
* `merge_lawful`, all of it together.
-/

namespace RestTemplates

namespace Query

variable (policy : MergePolicy)

/-! ## One key -/

theorem combine_assoc (first second third : List String) :
    combine policy (combine policy first second) third =
      combine policy first (combine policy second third) := by
  cases policy with
  | replace => rfl
  | append => exact List.append_assoc first second third

instance : Std.Associative (combine policy) := ⟨combine_assoc policy⟩

instance : Std.IdempotentOp (combine .replace) := ⟨fun _ => rfl⟩

theorem combine_nil (given : List String) : combine policy [] given = given := by
  cases policy with
  | replace => rfl
  | append => rfl

theorem combine_ne_nil {own given : List String} (h : given ≠ []) :
    combine policy own given ≠ [] := by
  cases policy with
  | replace => exact h
  | append => exact List.append_ne_nil_of_right_ne_nil own h

/-- What becomes of a key depends on its values in both queries only. -/
theorem values?_merge (q overrides : Query) (key : String) :
    (q.merge policy overrides).values? key =
      Option.merge (combine policy) (q.values? key) (overrides.values? key) := by
  have hvalues := MultiMap.values_mergeWith (combine policy) q overrides key
  cases hgiven : overrides.values? key with
  | none =>
      rw [hgiven, Option.elim_none] at hvalues
      rw [Option.merge_none_right]
      -- the values are the same, and so is whether there are any
      refine Option.ext ?_
      intro group
      rw [MultiMap.values?_eq_some_iff, MultiMap.values?_eq_some_iff, ← hvalues]
      rfl
  | some given =>
      have hne : given ≠ [] := MultiMap.ne_nil_of_values? hgiven
      rw [hgiven, Option.elim_some] at hvalues
      have hmerged : (q.merge policy overrides).values? key =
          some (combine policy (q.values key) given) :=
        MultiMap.values?_eq_some_iff.2 ⟨combine_ne_nil policy hne, hvalues⟩
      rw [hmerged]
      cases hown : q.values? key with
      | none =>
          rw [MultiMap.values?_eq_none_iff_values.1 hown, combine_nil, Option.merge_none_left]
      | some own =>
          rw [(MultiMap.values?_eq_some_iff.1 hown).2, Option.merge_some_some]

/-! ## Laws -/

theorem empty_merge (q : Query) : merge policy .empty q = q := by
  refine MultiMap.ext_values? ?_
  intro key
  rw [values?_merge]
  exact Option.merge_none_left

theorem merge_empty (q : Query) : q.merge policy .empty = q := rfl

theorem merge_assoc (q first second : Query) :
    (q.merge policy first).merge policy second = q.merge policy (first.merge policy second) := by
  refine MultiMap.ext_values? ?_
  intro key
  rw [values?_merge, values?_merge, values?_merge, values?_merge]
  exact Std.Associative.assoc _ _ _

theorem merge_self (q : Query) : q.merge .replace q = q := by
  refine MultiMap.ext_values? ?_
  intro key
  rw [values?_merge]
  exact Std.IdempotentOp.idempotent _

theorem merge_replace_twice (q overrides : Query) :
    (q.merge .replace overrides).merge .replace overrides = q.merge .replace overrides := by
  rw [merge_assoc, merge_self]

/-- Appending loses no pair and adds none. -/
theorem perm_pairs_merge_append (q overrides : Query) :
    (q.merge .append overrides).pairs.Perm (q.pairs ++ overrides.pairs) := by
  refine List.perm_iff_count.2 ?_
  rintro ⟨key, value⟩
  rw [List.count_append, MultiMap.count_pairs, MultiMap.count_pairs, MultiMap.count_pairs,
    values_merge_append, List.count_append]

/-! ## Editing in place -/

/-- What one group of the overrides does to the query that is edited: the values that the key has
at that moment, if it has any, are replaced or followed by those given. -/
def mergeGroup (key : String) (given : List String) : StateM Query Unit :=
  modify fun q =>
    match policy, q.values? key with
    | .replace, some _ => q.replace key given
    | .append, some own => q.replace key (own ++ given)
    | _, none => q.replace key given

/-- Merges the overrides into the query in place, in key order. -/
def mergeInPlace (overrides : Query) : StateM Query Unit :=
  forM overrides.toList fun group => mergeGroup policy group.1 group.2

/-- Merges the overrides into a copy of the query and gives the copy. -/
def mergedCopy (overrides : Query) : StateM Query Query := do
  let q ← get
  let (_, copy) := (mergeInPlace policy overrides).run q
  return copy

theorem run_mergeGroup (key : String) (given : List String) (q : Query) :
    (mergeGroup policy key given).run q =
      ((), q.replace key (combine policy (q.values key) given)) := by
  cases hown : q.values? key with
  | none =>
      rw [MultiMap.values?_eq_none_iff_values.1 hown, combine_nil]
      cases policy <;> simp only [mergeGroup, StateT.run_modify, hown] <;> rfl
  | some own =>
      rw [(MultiMap.values?_eq_some_iff.1 hown).2]
      cases policy <;> simp only [mergeGroup, StateT.run_modify, hown] <;> rfl

/-- The edits come to the merged query. -/
theorem run_mergeInPlace (q overrides : Query) :
    (mergeInPlace policy overrides).run q = ((), q.merge policy overrides) := by
  -- the query that is edited differs from group to group
  have hgroups : ∀ (groups : List (String × List String)) (q : Query),
      (forM groups fun group => mergeGroup policy group.1 group.2).run q =
        ((), groups.foldl
          (fun q group => q.replace group.1 (combine policy (q.values group.1) group.2)) q) := by
    intro groups
    induction groups with
    | nil =>
        intro q
        rfl
    | cons group rest ih =>
        intro q
        rw [List.forM_cons, StateT.run_bind, run_mergeGroup, List.foldl_cons]
        exact ih _
  exact hgroups overrides.toList q

/-- The copy is the merged query, and the query itself is as it was. -/
theorem run_mergedCopy (q overrides : Query) :
    (mergedCopy policy overrides).run q = (q.merge policy overrides, q) := by
  rw [mergedCopy, StateT.run_bind, StateT.run_get, pure_bind, run_mergeInPlace]
  rfl

/-! ## All laws together -/

/-- Merging is local and lawful, for all queries and under both policies. -/
theorem merge_lawful :
    -- the keys are those of both, and each has its values from where it is
    (∀ (policy : MergePolicy) (q overrides : Query) (key : String),
      (key ∈ (q.merge policy overrides).keys ↔ key ∈ q.keys ∨ key ∈ overrides.keys) ∧
      (key ∉ overrides.keys → (q.merge policy overrides).values? key = q.values? key) ∧
      (key ∉ q.keys → (q.merge policy overrides).values? key = overrides.values? key) ∧
      (key ∈ q.keys → key ∈ overrides.keys →
        (q.merge .replace overrides).values? key = overrides.values? key ∧
        (q.merge .append overrides).values? key =
          some (q.values key ++ overrides.values key))) ∧
    -- the empty query changes nothing, and brackets do not matter
    (∀ (policy : MergePolicy) (q : Query),
      q.merge policy .empty = q ∧ merge policy .empty q = q) ∧
    (∀ (policy : MergePolicy) (q first second : Query),
      (q.merge policy first).merge policy second = q.merge policy (first.merge policy second)) ∧
    (∀ q overrides : Query,
      (q.merge .replace overrides).merge .replace overrides = q.merge .replace overrides) ∧
    -- the query is edited in place or left alone, with the same outcome
    (∀ (policy : MergePolicy) (q overrides : Query),
      (mergeInPlace policy overrides).run q = ((), q.merge policy overrides) ∧
      (mergedCopy policy overrides).run q = (q.merge policy overrides, q)) ∧
    ∀ q overrides : Query,
      (q.merge .append overrides).pairs.Perm (q.pairs ++ overrides.pairs) ∧
      (q.merge .append overrides).pairs.length = q.pairs.length + overrides.pairs.length := by
  refine ⟨?_, ?_, merge_assoc, merge_replace_twice, ?_, ?_⟩
  · intro policy q overrides key
    refine ⟨?_, ?_, ?_, ?_⟩
    · rw [MultiMap.mem_keys_iff_values?, values?_merge, Ne, Option.merge_eq_none_iff, not_and_or,
        MultiMap.mem_keys_iff_values?, MultiMap.mem_keys_iff_values?]
    · intro hkey
      rw [values?_merge, MultiMap.values?_eq_none_iff.2 hkey, Option.merge_none_right]
    · intro hkey
      rw [values?_merge, MultiMap.values?_eq_none_iff.2 hkey, Option.merge_none_left]
    · intro hq hoverrides
      rcases Option.ne_none_iff_exists'.1 (MultiMap.mem_keys_iff_values?.1 hq) with ⟨own, hown⟩
      rcases Option.ne_none_iff_exists'.1 (MultiMap.mem_keys_iff_values?.1 hoverrides) with
        ⟨given, hgiven⟩
      rw [values?_merge, values?_merge, hown, hgiven, (MultiMap.values?_eq_some_iff.1 hown).2,
        (MultiMap.values?_eq_some_iff.1 hgiven).2]
      exact ⟨rfl, rfl⟩
  · intro policy q
    exact ⟨merge_empty policy q, empty_merge policy q⟩
  · intro policy q overrides
    exact ⟨run_mergeInPlace policy q overrides, run_mergedCopy policy q overrides⟩
  · intro q overrides
    have hperm := perm_pairs_merge_append q overrides
    exact ⟨hperm, hperm.length_eq.trans List.length_append⟩

end Query

end RestTemplates
