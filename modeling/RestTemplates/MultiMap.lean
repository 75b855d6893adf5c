import RestTemplates.Dictionary

/-!
# MultiMap — keys with several values

A map in which a key holds one or more values: the keys are in key order, the values of one key in
the order in which they were added.  Query strings and HTTP header lists are both of this shape.

This file defines:

* `MultiMap` with `append`, `replace`, `remove`, `ofPairs`, `mergeWith` and the view `pairs`,
* the effect of each of them on `values`, the values held by one key.
-/

namespace RestTemplates

/-- A map from strings to non-empty lists of values. -/
structure MultiMap (α : Type) where
  groups : Dictionary (List α)
  nonempty : ∀ group ∈ groups.entries, group.2 ≠ []
  deriving DecidableEq

namespace MultiMap

variable {α : Type}

/-! ## Views -/

def empty : MultiMap α := ⟨.empty, nofun⟩

instance : Inhabited (MultiMap α) := ⟨empty⟩

/-- The values of a key, if it is present. -/
def values? (m : MultiMap α) (key : String) : Option (List α) := m.groups.find? key

/-- The values of a key; none when it is absent. -/
def values (m : MultiMap α) (key : String) : List α := (m.values? key).getD []

def first? (m : MultiMap α) (key : String) : Option α := (m.values key).head?

def contains (m : MultiMap α) (key : String) : Bool := m.groups.contains key

def keys (m : MultiMap α) : List String := m.groups.keys

/-- The number of distinct keys. -/
def size (m : MultiMap α) : Nat := m.groups.size

def isEmpty (m : MultiMap α) : Bool := m.groups.isEmpty

def toList (m : MultiMap α) : List (String × List α) := m.groups.entries

/-- Every key with every one of its values, in key order. -/
def pairs (m : MultiMap α) : List (String × α) :=
  m.toList.flatMap fun group => group.2.map (group.1, ·)

/-! ## Operations -/

theorem nonempty_insert {m : MultiMap α} {key : String} {group : List α} (h : group ≠ []) :
    ∀ entry ∈ (m.groups.insert key group).entries, entry.2 ≠ [] := by
  intro entry he
  rcases Dictionary.mem_insertEntry he with rfl | he
  · exact h
  · exact m.nonempty entry he

/-- Adds a value after the values that the key already has. -/
def append (m : MultiMap α) (key : String) (value : α) : MultiMap α :=
  ⟨m.groups.insert key (m.values key ++ [value]), nonempty_insert (by simp)⟩

/-- Adds a value before the values that the key already has. -/
def prepend (m : MultiMap α) (key : String) (value : α) : MultiMap α :=
  ⟨m.groups.insert key (value :: m.values key), nonempty_insert (by simp)⟩

def remove (m : MultiMap α) (key : String) : MultiMap α :=
  ⟨m.groups.erase key, fun group h => m.nonempty group (List.mem_filter.1 h).1⟩

/-- Gives a key exactly these values; an empty list removes the key. -/
def replace (m : MultiMap α) (key : String) (group : List α) : MultiMap α :=
  if h : group = [] then m.remove key else ⟨m.groups.insert key group, nonempty_insert h⟩

/-- The map of a list of pairs; the values of a key have the order of the list. -/
def ofPairs (pairs : List (String × α)) : MultiMap α :=
  pairs.foldr (fun pair m => m.prepend pair.1 pair.2) empty

/-- Combines each group of the second map with the values that its key has in the first. -/
def mergeWith (combine : List α → List α → List α) (m other : MultiMap α) : MultiMap α :=
  other.toList.foldl (fun m group => m.replace group.1 (combine (m.values group.1) group.2)) m

/-! ## Values -/

@[simp] theorem values_empty (key : String) : (empty : MultiMap α).values key = [] := rfl

theorem values_append (m : MultiMap α) (key : String) (value : α) (other : String) :
    (m.append key value).values other =
      if other = key then m.values other ++ [value] else m.values other := by
  simp only [values, values?, append, Dictionary.find?_insert]
  split <;> simp_all

theorem values_prepend (m : MultiMap α) (key : String) (value : α) (other : String) :
    (m.prepend key value).values other =
      if other = key then value :: m.values other else m.values other := by
  simp only [values, values?, prepend, Dictionary.find?_insert]
  split <;> simp_all

/-- A key has the values of its pairs. -/
theorem values_ofPairs (pairs : List (String × α)) (key : String) :
    (ofPairs pairs).values key = (pairs.filter (·.1 = key)).map (·.2) := by
  induction pairs with
  | nil => rfl
  | cons pair rest ih =>
    rw [ofPairs, List.foldr_cons, values_prepend, ← ofPairs, ih, List.filter_cons]
    by_cases h : pair.1 = key
    · simp [h]
    · simp [h, Ne.symm h]

theorem values_remove (m : MultiMap α) (key other : String) :
    (m.remove key).values other = if other = key then [] else m.values other := by
  simp only [values, values?, remove, Dictionary.find?_erase]
  split <;> simp

theorem values_replace (m : MultiMap α) (key : String) (group : List α) (other : String) :
    (m.replace key group).values other = if other = key then group else m.values other := by
  rw [replace]
  split
  · next h => simp [values_remove, h]
  · simp only [values, values?, Dictionary.find?_insert]
    split <;> simp

end MultiMap

end RestTemplates
