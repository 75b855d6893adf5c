import RestTemplates.Proofs.Query.Merging

/-!
# Queries from groups — keys that are given once, in whatever order

Where every key is given once, with all its values, the order of the keys makes no difference to the
query, and each key has the values that stand with it.  A template and a call that share no key are
put together without asking how values combine, since there are none to combine.

This module proves:

* `MultiMap.ofPairs_pairsOf_of_perm`, the order of such groups makes no difference, and
  `MultiMap.pairs_ofPairs_pairsOf`, in key order they are listed as they are,
* `Query.merge_pairsOf`, what merging makes of groups that share no key, whatever the policy.
-/

namespace RestTemplates

namespace MultiMap

variable {α : Type} {groups others : List (String × List α)}

/-! ## Values -/

theorem pairsOf_cons (group : String × List α) (groups : List (String × List α)) :
    pairsOf (group :: groups) = group.2.map (group.1, ·) ++ pairsOf groups :=
  List.flatMap_cons

theorem pairsOf_append (groups others : List (String × List α)) :
    pairsOf (groups ++ others) = pairsOf groups ++ pairsOf others :=
  List.flatMap_append

theorem valuesIn_pairsOf_of_not_mem {key : String} (h : key ∉ groups.map (·.1)) :
    valuesIn (pairsOf groups) key = [] := by
  induction groups with
  | nil => rfl
  | cons group rest ih =>
      obtain ⟨hne, hrest⟩ := not_or.1 (mt List.mem_cons.2 h)
      rw [pairsOf_cons, valuesIn_append, valuesIn_group, if_neg (Ne.symm hne), ih hrest,
        List.append_nil]

theorem valuesIn_pairsOf_of_mem (hkeys : (groups.map (·.1)).Nodup) {group : String × List α}
    (h : group ∈ groups) : valuesIn (pairsOf groups) group.1 = group.2 := by
  induction groups with
  | nil => cases h
  | cons first rest ih =>
      obtain ⟨hfirst, hrest⟩ := List.nodup_cons.1 hkeys
      rw [pairsOf_cons, valuesIn_append, valuesIn_group]
      rcases List.mem_cons.1 h with rfl | hmem
      · rw [if_pos rfl, valuesIn_pairsOf_of_not_mem hfirst, List.append_nil]
      · have hne : first.1 ≠ group.1 := by
          intro heq
          exact hfirst (List.mem_map.2 ⟨group, hmem, heq.symm⟩)
        rw [if_neg hne, List.nil_append, ih hrest hmem]

/-- The order of the groups makes no difference to the values of a key. -/
theorem valuesIn_pairsOf_of_perm (hkeys : (groups.map (·.1)).Nodup) (hperm : groups.Perm others)
    (key : String) : valuesIn (pairsOf groups) key = valuesIn (pairsOf others) key := by
  have hothers : (others.map (·.1)).Nodup := (hperm.map _).nodup_iff.1 hkeys
  by_cases hkey : key ∈ groups.map (·.1)
  · obtain ⟨group, hgroup, rfl⟩ := List.mem_map.1 hkey
    rw [valuesIn_pairsOf_of_mem hkeys hgroup,
      valuesIn_pairsOf_of_mem hothers (hperm.mem_iff.1 hgroup)]
  · have hother : key ∉ others.map (·.1) := fun h => hkey ((hperm.map _).mem_iff.2 h)
    rw [valuesIn_pairsOf_of_not_mem hkey, valuesIn_pairsOf_of_not_mem hother]

/-! ## Pairs -/

theorem pairsOf_filter (groups : List (String × List α)) :
    pairsOf (groups.filter fun group => !group.2.isEmpty) = pairsOf groups := by
  induction groups with
  | nil => rfl
  | cons group rest ih =>
      rw [List.filter_cons, pairsOf_cons]
      split
      · rw [pairsOf_cons, ih]
      · next hempty =>
        have hnil : group.2 = [] := by
          simpa using hempty
        rw [ih, hnil, List.map_nil, List.nil_append]

/-- Groups in key order are the groups of a map, but for those without values. -/
theorem exists_pairs_eq_pairsOf (hsorted : groups.Pairwise fun a b => a.1 < b.1) :
    ∃ m : MultiMap α, m.pairs = pairsOf groups := by
  refine ⟨⟨⟨groups.filter fun group => !group.2.isEmpty, hsorted.filter _⟩, ?_⟩,
    pairsOf_filter groups⟩
  intro group hgroup
  simpa using (List.mem_filter.1 hgroup).2

/-- A map of groups in key order lists them as they are. -/
theorem pairs_ofPairs_pairsOf (hsorted : groups.Pairwise fun a b => a.1 < b.1) :
    (ofPairs (pairsOf groups)).pairs = pairsOf groups := by
  obtain ⟨m, hm⟩ := exists_pairs_eq_pairsOf hsorted
  rw [← hm, ofPairs_pairs]

theorem ofPairs_pairsOf_of_perm (hkeys : (groups.map (·.1)).Nodup) (hperm : groups.Perm others) :
    ofPairs (pairsOf groups) = ofPairs (pairsOf others) := by
  refine ext_values ?_
  intro key
  rw [values_ofPairs, values_ofPairs]
  exact valuesIn_pairsOf_of_perm hkeys hperm key

end MultiMap

/-! ## Merging -/

namespace Query

open MultiMap (ofPairs pairsOf valuesIn)

/-- Queries with no key in common are put together, whatever the policy. -/
theorem merge_pairsOf (policy : MergePolicy) {own given : List (String × List String)}
    (hkeys : ((own ++ given).map (·.1)).Nodup) :
    merge policy (ofPairs (pairsOf own)) (ofPairs (pairsOf given)) =
      ofPairs (pairsOf (own ++ given)) := by
  rw [List.map_append, List.nodup_append] at hkeys
  obtain ⟨-, -, hdisjoint⟩ := hkeys
  refine MultiMap.ext_values ?_
  intro key
  have hown : (ofPairs (pairsOf own)).values key = valuesIn (pairsOf own) key :=
    MultiMap.values_ofPairs _ key
  have hgiven : (ofPairs (pairsOf given)).values key = valuesIn (pairsOf given) key :=
    MultiMap.values_ofPairs _ key
  have hboth : (ofPairs (pairsOf (own ++ given))).values key =
      valuesIn (pairsOf own) key ++ valuesIn (pairsOf given) key := by
    rw [MultiMap.values_ofPairs, MultiMap.pairsOf_append]
    exact MultiMap.valuesIn_append _ _ key
  rw [merge, MultiMap.values_mergeWith, hboth]
  cases hvalues : (ofPairs (pairsOf given)).values? key with
  | none =>
      rw [Option.elim_none, hown, ← hgiven, MultiMap.values?_eq_none_iff_values.1 hvalues,
        List.append_nil]
  | some values =>
      -- the call has the key, so the template has not
      obtain ⟨hne, hheld⟩ := MultiMap.values?_eq_some_iff.1 hvalues
      have hmem : key ∈ given.map (·.1) := by
        by_contra hkey
        rw [hgiven, MultiMap.valuesIn_pairsOf_of_not_mem hkey] at hheld
        exact hne hheld.symm
      have hnone : valuesIn (pairsOf own) key = [] :=
        MultiMap.valuesIn_pairsOf_of_not_mem fun hkey => hdisjoint key hkey key hmem rfl
      rw [Option.elim_some, hown, hnone, combine_nil, List.nil_append, ← hgiven, hheld]

end Query

end RestTemplates
