import RestTemplates.Dictionary

/-!
# Dictionaries as sorted lists — look-up, membership, extensionality

A dictionary keeps its entries in strict key order.  So a look-up finds exactly the entries of the
list, a dictionary is determined by its look-ups, and binding a new key makes it longer by one.

This module proves:

* `find?_eq_some_iff`, look-up as membership,
* `ext_find?`, extensionality,
* `find?_insertAll`, the last of several bindings counts, and `ofList_toList`, a dictionary is
  collected from its own entries,
* `mem_keys_iff`, `keys_eq_of_mem_iff`, `isEmpty_iff` and `size_insert_of_find?_eq_none`.
-/

namespace RestTemplates

namespace Dictionary

variable {α : Type}

/-! ## Look-up and membership -/

theorem mem_of_lookupEntry {key : String} {value : α} {entries : List (String × α)} :
    lookupEntry key entries = some value → (key, value) ∈ entries := by
  intro h
  induction entries with
  | nil =>
      simp [lookupEntry] at h
  | cons entry rest ih =>
      by_cases hkey : entry.1 = key
      · have hvalue : entry.2 = value := by
          simpa [lookupEntry, hkey] using h
        have hentry : entry = (key, value) := Prod.ext hkey hvalue
        exact hentry ▸ List.mem_cons_self
      · have hrest : lookupEntry key rest = some value := by
          simpa [lookupEntry, hkey] using h
        exact List.mem_cons_of_mem _ (ih hrest)

theorem lookupEntry_of_mem {key : String} {value : α} {entries : List (String × α)}
    (hsorted : entries.Pairwise fun a b => a.1 < b.1) (hmem : (key, value) ∈ entries) :
    lookupEntry key entries = some value := by
  induction entries with
  | nil =>
      cases hmem
  | cons entry rest ih =>
      have hparts := List.pairwise_cons.1 hsorted
      rcases List.mem_cons.1 hmem with rfl | hrest
      · simp [lookupEntry]
      · -- the entry sought stands behind the head, so its key is a larger one
        have hlt : entry.1 < key := hparts.1 _ hrest
        have hne : entry.1 ≠ key := fun heq => String.lt_irrefl key (heq ▸ hlt)
        simpa [lookupEntry, hne] using ih hparts.2 hrest

theorem find?_eq_some_iff {d : Dictionary α} {key : String} {value : α} :
    d.find? key = some value ↔ (key, value) ∈ d.entries :=
  ⟨mem_of_lookupEntry, lookupEntry_of_mem d.sorted⟩

/-! ## Extensionality -/

theorem nodup_entries (d : Dictionary α) : d.entries.Nodup := by
  refine d.sorted.imp ?_
  intro a b hlt heq
  exact String.lt_irrefl b.1 (heq ▸ hlt)

/-- Equal look-ups mean equal members, and a sorted list is determined by its members. -/
theorem ext_find? {d d' : Dictionary α} (h : ∀ key, d.find? key = d'.find? key) : d = d' := by
  have hmem : ∀ entry, entry ∈ d.entries ↔ entry ∈ d'.entries := by
    intro entry
    rw [← find?_eq_some_iff, ← find?_eq_some_iff, h entry.1]
  have hperm : d.entries.Perm d'.entries :=
    (List.perm_ext_iff_of_nodup d.nodup_entries d'.nodup_entries).2 hmem
  have hentries : d.entries = d'.entries := by
    refine List.Perm.eq_of_pairwise ?_ d.sorted d'.sorted hperm
    intro a b _ _ hab hba
    exact absurd (String.lt_trans hab hba) (String.lt_irrefl _)
  cases d
  cases d'
  cases hentries
  rfl

/-! ## Bindings in a row -/

/-- The value in the last pair of a key. -/
def lastValue? (pairs : List (String × α)) (key : String) : Option α :=
  (pairs.filter (·.1 = key)).getLast?.map (·.2)

/-- Of several pairs with one key the last counts, whatever the key was bound to before. -/
theorem find?_insertAll (d : Dictionary α) (pairs : List (String × α)) (key : String) :
    (d.insertAll pairs).find? key = (lastValue? pairs key).or (d.find? key) := by
  induction pairs generalizing d with
  | nil => rfl
  | cons pair pairs ih =>
      have hfirst : d.insertAll (pair :: pairs) = (d.insert pair.1 pair.2).insertAll pairs := rfl
      rw [hfirst, ih, find?_insert, lastValue?, lastValue?, List.filter_cons]
      by_cases hkey : pair.1 = key
      · -- the first pair counts only if no other pair has the key
        simp only [hkey, decide_true, if_true, List.getLast?_cons]
        cases (pairs.filter (·.1 = key)).getLast? <;> rfl
      · simp [hkey, Ne.symm hkey]

theorem insertAll_append (d : Dictionary α) (pairs others : List (String × α)) :
    d.insertAll (pairs ++ others) = (d.insertAll pairs).insertAll others :=
  List.foldl_append

/-- How pairs are parted into blocks makes no difference. -/
theorem foldl_insertAll (d : Dictionary α) (blocks : List (List (String × α))) :
    blocks.foldl insertAll d = d.insertAll blocks.flatten := by
  induction blocks generalizing d with
  | nil => rfl
  | cons block blocks ih => rw [List.foldl_cons, ih, List.flatten_cons, insertAll_append]

/-- No key stands twice among the entries, so the last entry of a key is its only one. -/
theorem lastValue?_entries (d : Dictionary α) (key : String) :
    lastValue? d.entries key = d.find? key := by
  cases hlast : lastValue? d.entries key with
  | some value =>
      obtain ⟨entry, hentry, rfl⟩ := Option.map_eq_some_iff.1 hlast
      obtain ⟨hmem, hkey⟩ := List.mem_filter.1 (List.mem_of_getLast? hentry)
      have hfst : entry.1 = key := of_decide_eq_true hkey
      exact (find?_eq_some_iff.2 (hfst ▸ hmem)).symm
  | none =>
      rw [lastValue?, Option.map_eq_none_iff, List.getLast?_eq_none_iff] at hlast
      refine (Option.eq_none_iff_forall_ne_some.2 ?_).symm
      intro value hvalue
      have hmem : (key, value) ∈ d.entries.filter (·.1 = key) :=
        List.mem_filter.2 ⟨find?_eq_some_iff.1 hvalue, decide_eq_true rfl⟩
      rw [hlast] at hmem
      cases hmem

/-- A dictionary is collected from its own entries. -/
theorem ofList_toList (d : Dictionary α) : ofList d.toList = d := by
  refine ext_find? ?_
  intro key
  rw [ofList, find?_insertAll, toList, lastValue?_entries, find?_empty, Option.or_none]

/-! ## Tables -/

theorem find?_insertAll_map (names : List String) (values : String → α) (d : Dictionary α)
    (name : String) :
    (d.insertAll (names.map fun other => (other, values other))).find? name =
      if name ∈ names then some (values name) else d.find? name := by
  induction names generalizing d with
  | nil => simp [insertAll]
  | cons first names ih =>
      have hfirst : d.insertAll ((first :: names).map fun other => (other, values other)) =
          (d.insert first (values first)).insertAll
            (names.map fun other => (other, values other)) := rfl
      rw [hfirst, ih, find?_insert]
      by_cases hmem : name ∈ names
      · simp [hmem]
      · by_cases heq : name = first
        · simp [heq]
        · simp [hmem, heq]

/-- The dictionary of a function on some names. -/
theorem find?_ofList_map {names : List String} (values : String → α) {name : String}
    (h : name ∈ names) :
    (ofList (names.map fun other => (other, values other))).find? name = some (values name) := by
  rw [ofList, find?_insertAll_map, if_pos h]

/-! ## Keys and size -/

theorem mem_keys_iff {d : Dictionary α} {key : String} :
    key ∈ d.keys ↔ ∃ value, d.find? key = some value := by
  constructor
  · intro h
    rcases List.mem_map.1 h with ⟨entry, hentry, rfl⟩
    exact ⟨entry.2, find?_eq_some_iff.2 hentry⟩
  · rintro ⟨value, h⟩
    exact List.mem_map.2 ⟨(key, value), find?_eq_some_iff.1 h, rfl⟩

theorem isEmpty_iff {d : Dictionary α} : d.isEmpty = true ↔ ∀ key, d.find? key = none := by
  rw [isEmpty, List.isEmpty_iff]
  constructor
  · intro h key
    simp [find?, h, lookupEntry]
  · intro h
    refine List.eq_nil_iff_forall_not_mem.2 ?_
    intro entry hentry
    have hfind := find?_eq_some_iff.2 hentry
    rw [h] at hfind
    cases hfind

theorem nodup_keys (d : Dictionary α) : d.keys.Nodup := by
  refine List.Pairwise.map _ ?_ d.sorted
  intro a b hlt heq
  exact String.lt_irrefl b.1 (heq ▸ hlt)

/-- Keys stand in their order, whatever they hold. -/
theorem keys_eq_of_mem_iff {β : Type} {d : Dictionary α} {d' : Dictionary β}
    (h : ∀ key, key ∈ d.keys ↔ key ∈ d'.keys) : d.keys = d'.keys := by
  have hperm : d.keys.Perm d'.keys := (List.perm_ext_iff_of_nodup d.nodup_keys d'.nodup_keys).2 h
  have hsorted : d.keys.Pairwise (· < ·) := d.sorted.map _ fun _ _ hlt => hlt
  have hsorted' : d'.keys.Pairwise (· < ·) := d'.sorted.map _ fun _ _ hlt => hlt
  refine List.Perm.eq_of_pairwise ?_ hsorted hsorted' hperm
  intro a b _ _ hab hba
  exact absurd (String.lt_trans hab hba) (String.lt_irrefl _)

theorem length_keys (d : Dictionary α) : d.keys.length = d.size := by
  simp [keys, size]

theorem length_insertEntry_of_lookupEntry_eq_none {key : String} (value : α)
    {entries : List (String × α)} (h : lookupEntry key entries = none) :
    (insertEntry key value entries).length = entries.length + 1 := by
  induction entries with
  | nil => rfl
  | cons entry rest ih =>
      by_cases hkey : entry.1 = key
      · simp [lookupEntry, hkey] at h
      · have hrest : lookupEntry key rest = none := by
          simpa [lookupEntry, hkey] using h
        rw [insertEntry]
        split
        · rfl
        · simp [Ne.symm hkey, ih hrest]

theorem size_insert_of_find?_eq_none {d : Dictionary α} {key : String} (value : α)
    (h : d.find? key = none) : (d.insert key value).size = d.size + 1 :=
  length_insertEntry_of_lookupEntry_eq_none value h

end Dictionary

end RestTemplates
