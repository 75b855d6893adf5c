import Mathlib.Data.List.Basic
import RestTemplates.MultiMap
import RestTemplates.Proofs.Dictionary

/-!
# Maps with several values — determined by their values, rebuilt from their pairs

No key holds an empty list, so a key is present exactly when it has a value, and a map is known from
`values` alone.  The list of all pairs keeps the values of each key together and in order, so
collecting it gives the same map again.

This module proves:

* `ext_values` and `ext_values?`, extensionality, and `keys_eq_of_values`,
* `values_mergeWith`, what becomes of a key when two maps are combined,
* `count_pairs`, how often a pair is listed, and `ofPairs_pairs`, a map is collected from its own
  pairs,
* `pairs_eq_nil_iff`, only the map with no key has no pairs.
-/

namespace RestTemplates

namespace MultiMap

variable {α : Type}

/-! ## Extensionality -/

theorem ne_nil_of_values? {m : MultiMap α} {key : String} {group : List α}
    (h : m.values? key = some group) : group ≠ [] :=
  m.nonempty _ (Dictionary.find?_eq_some_iff.1 h)

theorem values?_eq_some_iff {m : MultiMap α} {key : String} {group : List α} :
    m.values? key = some group ↔ group ≠ [] ∧ m.values key = group := by
  constructor
  · intro h
    exact ⟨ne_nil_of_values? h, by simp [values, h]⟩
  · rintro ⟨hne, hvalues⟩
    cases h : m.values? key with
    | none =>
        -- an absent key has no values, and no present key has none
        have hnil : group = [] := by
          simpa [values, h] using hvalues.symm
        exact absurd hnil hne
    | some held =>
        have heq : held = group := by
          simpa [values, h] using hvalues
        rw [heq]

/-- A key is present exactly if it has a value. -/
theorem contains_iff {m : MultiMap α} {key : String} :
    m.contains key = true ↔ m.values key ≠ [] := by
  rw [contains, Dictionary.contains, Option.isSome_iff_exists]
  constructor
  · rintro ⟨group, hgroup⟩
    have hvalues := values?_eq_some_iff.1 hgroup
    exact fun hnil => hvalues.1 (hvalues.2.symm.trans hnil)
  · intro hne
    exact ⟨m.values key, values?_eq_some_iff.2 ⟨hne, rfl⟩⟩

theorem mem_keys_iff {m : MultiMap α} {key : String} : key ∈ m.keys ↔ m.values key ≠ [] := by
  rw [← contains_iff, keys, Dictionary.mem_keys_iff, contains, Dictionary.contains,
    Option.isSome_iff_exists]

theorem ext_values {m m' : MultiMap α} (h : ∀ key, m.values key = m'.values key) : m = m' := by
  have hgroups : m.groups = m'.groups := by
    refine Dictionary.ext_find? ?_
    intro key
    refine Option.ext ?_
    intro group
    have hiff : m.values? key = some group ↔ m'.values? key = some group := by
      rw [values?_eq_some_iff, values?_eq_some_iff, h key]
    exact hiff
  cases m
  cases m'
  cases hgroups
  rfl

theorem ext_values? {m m' : MultiMap α} (h : ∀ key, m.values? key = m'.values? key) : m = m' := by
  refine ext_values ?_
  intro key
  rw [values, values, h key]

theorem mem_keys_iff_values? {m : MultiMap α} {key : String} :
    key ∈ m.keys ↔ m.values? key ≠ none := by
  rw [keys, Dictionary.mem_keys_iff, Option.ne_none_iff_exists']
  rfl

theorem values?_eq_none_iff {m : MultiMap α} {key : String} :
    m.values? key = none ↔ key ∉ m.keys := by
  rw [mem_keys_iff_values?, not_not]

theorem values?_eq_none_iff_values {m : MultiMap α} {key : String} :
    m.values? key = none ↔ m.values key = [] := by
  rw [values?_eq_none_iff, mem_keys_iff, not_not]

/-- The keys are known from which keys have a value. -/
theorem keys_eq_of_values {β : Type} {m : MultiMap α} {m' : MultiMap β}
    (h : ∀ key, m.values key = [] ↔ m'.values key = []) : m.keys = m'.keys := by
  refine Dictionary.keys_eq_of_mem_iff ?_
  intro key
  exact mem_keys_iff.trans ((not_congr (h key)).trans mem_keys_iff.symm)

/-! ## Merging -/

/-- A key that both maps have gets the combined values, and any other key keeps its values. -/
theorem values_mergeWith (combine : List α → List α → List α) (m other : MultiMap α)
    (key : String) :
    (m.mergeWith combine other).values key =
      (other.values? key).elim (m.values key) (combine (m.values key)) := by
  -- the groups of the other map are gone through one after the other, each key once
  have hgroups : ∀ groups : List (String × List α), (groups.Pairwise fun a b => a.1 < b.1) →
      ∀ m : MultiMap α,
        (groups.foldl (fun m group => m.replace group.1 (combine (m.values group.1) group.2))
          m).values key =
        (Dictionary.lookupEntry key groups).elim (m.values key) (combine (m.values key)) := by
    intro groups hsorted
    induction groups with
    | nil =>
        intro m
        rfl
    | cons group rest ih =>
        intro m
        have hparts := List.pairwise_cons.1 hsorted
        rw [List.foldl_cons, ih hparts.2, values_replace, Dictionary.lookupEntry]
        by_cases hkey : group.1 = key
        · -- the keys behind the head are larger, so what it gives stays
          have hrest : Dictionary.lookupEntry key rest = none := by
            refine Option.eq_none_iff_forall_ne_some.2 ?_
            intro value hvalue
            have hlt := hparts.1 _ (Dictionary.mem_of_lookupEntry hvalue)
            exact String.lt_irrefl key (hkey ▸ hlt)
          rw [if_pos hkey, if_pos hkey.symm, hrest, ← hkey]
          rfl
        · rw [if_neg hkey, if_neg (Ne.symm hkey)]
  exact hgroups other.toList other.groups.sorted m

/-! ## Pairs -/

theorem pairs_eq_flatMap_keys (m : MultiMap α) :
    m.pairs = m.keys.flatMap fun key => (m.values key).map (key, ·) := by
  rw [pairs, keys, Dictionary.keys, List.flatMap_map]
  refine List.flatMap_congr ?_
  intro group hgroup
  have hvalues : m.values? group.1 = some group.2 := Dictionary.find?_eq_some_iff.2 hgroup
  rw [(values?_eq_some_iff.1 hvalues).2]

/-- Each value of some groups under its key. -/
def pairsOf (groups : List (String × List α)) : List (String × α) :=
  groups.flatMap fun group => group.2.map (group.1, ·)

/-- The values that some pairs give a key. -/
def valuesIn (pairs : List (String × α)) (key : String) : List α :=
  (pairs.filter (·.1 = key)).map (·.2)

theorem valuesIn_append (pairs others : List (String × α)) (key : String) :
    valuesIn (pairs ++ others) key = valuesIn pairs key ++ valuesIn others key := by
  simp [valuesIn]

theorem valuesIn_cons (pair : String × α) (rest : List (String × α)) (key : String) :
    valuesIn (pair :: rest) key = valuesIn [pair] key ++ valuesIn rest key :=
  valuesIn_append [pair] rest key

/-- Some pairs give a key a value exactly if it is the key of one of them. -/
theorem valuesIn_ne_nil_iff {pairs : List (String × α)} {key : String} :
    valuesIn pairs key ≠ [] ↔ key ∈ pairs.map (·.1) := by
  simp [valuesIn]

theorem valuesIn_group (group : String × List α) (key : String) :
    valuesIn (group.2.map (group.1, ·)) key = if group.1 = key then group.2 else [] := by
  rw [valuesIn, List.filter_map, List.map_map]
  split
  · next h =>
    simp [Function.comp_def, h]
  · next h =>
    simp [Function.comp_def, h]

theorem valuesIn_pairsOf_of_lt {groups : List (String × List α)} {key : String}
    (h : ∀ group ∈ groups, key < group.1) : valuesIn (pairsOf groups) key = [] := by
  induction groups with
  | nil => rfl
  | cons group rest ih =>
      have hne : group.1 ≠ key := by
        rintro rfl
        exact String.lt_irrefl _ (h group List.mem_cons_self)
      rw [pairsOf, List.flatMap_cons, ← pairsOf, valuesIn_append, valuesIn_group, if_neg hne,
        ih fun other hother => h other (List.mem_cons_of_mem _ hother)]
      rfl

theorem valuesIn_pairsOf {groups : List (String × List α)}
    (hsorted : groups.Pairwise fun a b => a.1 < b.1) (key : String) :
    valuesIn (pairsOf groups) key = (Dictionary.lookupEntry key groups).getD [] := by
  induction groups with
  | nil => rfl
  | cons group rest ih =>
      have hparts := List.pairwise_cons.1 hsorted
      rw [pairsOf, List.flatMap_cons, ← pairsOf, valuesIn_append, valuesIn_group,
        Dictionary.lookupEntry]
      by_cases hkey : group.1 = key
      · -- the keys behind the head are larger, so none of their pairs is sought
        have hrest := valuesIn_pairsOf_of_lt fun other hother => hkey ▸ hparts.1 other hother
        rw [if_pos hkey, if_pos hkey, hrest, List.append_nil, Option.getD_some]
      · rw [if_neg hkey, if_neg hkey, List.nil_append, ih hparts.2]

theorem values_ofPairs_pairs (m : MultiMap α) (key : String) :
    (ofPairs m.pairs).values key = m.values key := by
  rw [values_ofPairs]
  exact valuesIn_pairsOf m.groups.sorted key

theorem count_valuesIn [DecidableEq α] (pairs : List (String × α)) (key : String) (value : α) :
    (valuesIn pairs key).count value = pairs.count (key, value) := by
  induction pairs with
  | nil => rfl
  | cons pair rest ih =>
      rw [valuesIn_cons, List.count_append, ih, List.count_cons, Nat.add_comm]
      by_cases hkey : pair.1 = key
      · simp [valuesIn, hkey, List.count_singleton, Prod.ext_iff]
      · simp [valuesIn, hkey, Prod.ext_iff]

/-- A pair is listed as often as its key has its value. -/
theorem count_pairs [DecidableEq α] (m : MultiMap α) (key : String) (value : α) :
    m.pairs.count (key, value) = (m.values key).count value := by
  rw [← count_valuesIn]
  exact congrArg (List.count value) (valuesIn_pairsOf m.groups.sorted key)

/-- Pairs that are added one after the other. -/
def appendPair (m : MultiMap α) (pair : String × α) : MultiMap α := m.append pair.1 pair.2

theorem values_foldl_appendPair (m : MultiMap α) (pairs : List (String × α)) (key : String) :
    (pairs.foldl appendPair m).values key = m.values key ++ valuesIn pairs key := by
  induction pairs generalizing m with
  | nil => simp [valuesIn]
  | cons pair rest ih =>
      rw [List.foldl_cons, ih, appendPair, values_append, valuesIn_cons, ← List.append_assoc]
      by_cases hkey : key = pair.1
      · simp [valuesIn, hkey]
      · simp [valuesIn, hkey, Ne.symm hkey]

/-- Adding pairs to the empty map collects them. -/
theorem foldl_appendPair_empty (pairs : List (String × α)) :
    pairs.foldl appendPair empty = ofPairs pairs := by
  refine ext_values ?_
  intro key
  rw [values_foldl_appendPair, values_ofPairs]
  rfl

/-- A map is collected from its own pairs. -/
theorem ofPairs_pairs (m : MultiMap α) : ofPairs m.pairs = m :=
  ext_values (values_ofPairs_pairs m)

theorem isEmpty_iff {m : MultiMap α} : m.isEmpty = true ↔ m.keys = [] := by
  rw [isEmpty, Dictionary.isEmpty, List.isEmpty_iff, keys, Dictionary.keys, List.map_eq_nil_iff]

theorem pairs_eq_nil_iff {m : MultiMap α} : m.pairs = [] ↔ m.keys = [] := by
  rw [pairs, List.flatMap_eq_nil_iff, keys, Dictionary.keys, List.map_eq_nil_iff,
    List.eq_nil_iff_forall_not_mem]
  constructor
  · intro h group hgroup
    exact m.nonempty group hgroup (List.map_eq_nil_iff.1 (h group hgroup))
  · intro h group hgroup
    exact absurd hgroup (h group)

end MultiMap

end RestTemplates
