/-!
# Dictionary — maps from strings, in key order

A finite map from strings is kept as the list of its entries in strictly increasing key order.
The order is the one of code points, which is also the order of the keys' UTF-8 bytes.  Because the
list is canonical, two dictionaries with the same bindings are equal, and `toList` is the order in
which a map is shown or encoded.

This file defines:

* `Dictionary` with `find?`, `insert`, `erase`, `contains`, `keys`, `size` and `ofList`,
* the effect of each of them on look-up, and extensionality.
-/

namespace RestTemplates

/-- A finite map from strings; the entries are sorted by key and no key occurs twice. -/
structure Dictionary (α : Type) where
  entries : List (String × α)
  sorted : entries.Pairwise fun a b => a.1 < b.1
  deriving DecidableEq

namespace Dictionary

variable {α : Type}

/-! ## Entry lists -/

/-- Puts an entry at its place, replacing the one with the same key. -/
def insertEntry (key : String) (value : α) : List (String × α) → List (String × α)
  | [] => [(key, value)]
  | entry :: rest =>
    if key < entry.1 then (key, value) :: entry :: rest
    else if key = entry.1 then (key, value) :: rest
    else entry :: insertEntry key value rest

/-- The value of the first entry with this key. -/
def lookupEntry (key : String) : List (String × α) → Option α
  | [] => none
  | entry :: rest => if entry.1 = key then some entry.2 else lookupEntry key rest

theorem mem_insertEntry {key : String} {value : α} {entry : String × α}
    {entries : List (String × α)} (h : entry ∈ insertEntry key value entries) :
    entry = (key, value) ∨ entry ∈ entries := by
  induction entries with
  | nil => simpa [insertEntry] using h
  | cons head rest ih =>
    rw [insertEntry] at h
    split at h
    · simpa using h
    · split at h
      · rcases List.mem_cons.1 h with h | h
        · exact .inl h
        · exact .inr (List.mem_cons_of_mem _ h)
      · rcases List.mem_cons.1 h with h | h
        · exact .inr (h ▸ List.mem_cons_self)
        · exact (ih h).imp id (List.mem_cons_of_mem _)

theorem sorted_insertEntry (key : String) (value : α) {entries : List (String × α)}
    (h : entries.Pairwise fun a b => a.1 < b.1) :
    (insertEntry key value entries).Pairwise fun a b => a.1 < b.1 := by
  induction entries with
  | nil => simp [insertEntry]
  | cons head rest ih =>
    obtain ⟨hd, tl⟩ := List.pairwise_cons.1 h
    rw [insertEntry]
    split
    · next hlt =>
      refine List.pairwise_cons.2 ⟨fun e he => ?_, h⟩
      rcases List.mem_cons.1 he with rfl | he
      · exact hlt
      · exact String.lt_trans hlt (hd e he)
    · split
      · next heq => exact List.pairwise_cons.2 ⟨fun e he => heq ▸ hd e he, tl⟩
      · refine List.pairwise_cons.2 ⟨fun e he => ?_, ih tl⟩
        rcases mem_insertEntry he with rfl | he
        · grind
        · exact hd e he

/-! ## Operations -/

def empty : Dictionary α := ⟨[], .nil⟩

instance : Inhabited (Dictionary α) := ⟨empty⟩

def find? (d : Dictionary α) (key : String) : Option α := lookupEntry key d.entries

def contains (d : Dictionary α) (key : String) : Bool := (d.find? key).isSome

/-- Binds a key, replacing its earlier value. -/
def insert (d : Dictionary α) (key : String) (value : α) : Dictionary α :=
  ⟨insertEntry key value d.entries, sorted_insertEntry key value d.sorted⟩

def erase (d : Dictionary α) (key : String) : Dictionary α :=
  ⟨d.entries.filter (·.1 ≠ key), d.sorted.filter _⟩

def toList (d : Dictionary α) : List (String × α) := d.entries

def keys (d : Dictionary α) : List String := d.entries.map (·.1)

def size (d : Dictionary α) : Nat := d.entries.length

def isEmpty (d : Dictionary α) : Bool := d.entries.isEmpty

/-- Binds pairs one after the other, so that the last pair of a key counts. -/
def insertAll (d : Dictionary α) (pairs : List (String × α)) : Dictionary α :=
  pairs.foldl (fun d pair => d.insert pair.1 pair.2) d

def ofList (pairs : List (String × α)) : Dictionary α := empty.insertAll pairs

/-! ## Look-up -/

theorem lookupEntry_insertEntry (key : String) (value : α) (other : String)
    (entries : List (String × α)) :
    lookupEntry other (insertEntry key value entries) =
      if other = key then some value else lookupEntry other entries := by
  induction entries with
  | nil => grind [insertEntry, lookupEntry]
  | cons head rest ih => grind [insertEntry, lookupEntry]

theorem lookupEntry_filter_ne (key other : String) (entries : List (String × α)) :
    lookupEntry other (entries.filter (·.1 ≠ key)) =
      if other = key then none else lookupEntry other entries := by
  induction entries with
  | nil => simp [lookupEntry]
  | cons head rest ih =>
    rw [List.filter_cons]
    split <;> grind [lookupEntry]

@[simp] theorem find?_empty (key : String) : (empty : Dictionary α).find? key = none := rfl

theorem find?_insert (d : Dictionary α) (key : String) (value : α) (other : String) :
    (d.insert key value).find? other = if other = key then some value else d.find? other :=
  lookupEntry_insertEntry key value other d.entries

theorem find?_erase (d : Dictionary α) (key other : String) :
    (d.erase key).find? other = if other = key then none else d.find? other :=
  lookupEntry_filter_ne key other d.entries

end Dictionary

end RestTemplates
