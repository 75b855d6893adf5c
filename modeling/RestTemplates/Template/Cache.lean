import RestTemplates.Template.Url

/-!
# Template cache — each raw text is read once

A cache keeps every URL template that it has read under its raw text, and never drops or changes
one. Each stored template has a number of its own, so that a caller can tell whether two look-ups
gave the same stored object.  Texts that cannot be read are not stored.

This file defines:

* `TemplateCache` with `get?`, `contains` and `resolve`,
* `TemplateCache.Stats`, its counters, and `TemplateCache.Event`, what a `resolve` reports.
-/

namespace RestTemplates

namespace TemplateCache

/-- A stored template with its number, counted from zero in the order of storing. -/
structure Entry where
  id : Nat
  template : UrlTemplate
  deriving DecidableEq

/-- The number of stored templates, of look-ups that found one and of look-ups that had to read. -/
structure Stats where
  entries : Nat
  hits : Nat
  misses : Nat
  deriving DecidableEq, Repr

/-- What a look-up reports. -/
inductive Event
  | hit (raw : String)
  | rejected (raw : String) (error : TemplateError)
  | stored (raw : String) (entries : Nat)
  deriving DecidableEq, Repr

end TemplateCache

structure TemplateCache where
  entries : Dictionary TemplateCache.Entry
  hits : Nat
  misses : Nat
  deriving DecidableEq

namespace TemplateCache

def empty : TemplateCache := ⟨.empty, 0, 0⟩

instance : Inhabited TemplateCache := ⟨empty⟩

/-- Looks a text up without reading it and without counting. -/
def get? (cache : TemplateCache) (raw : String) : Option Entry := cache.entries.find? raw

def contains (cache : TemplateCache) (raw : String) : Bool := cache.entries.contains raw

def size (cache : TemplateCache) : Nat := cache.entries.size

def isEmpty (cache : TemplateCache) : Bool := cache.size = 0

def stats (cache : TemplateCache) : Stats := ⟨cache.size, cache.hits, cache.misses⟩

/-- A cache in one line. -/
def describe (cache : TemplateCache) : String :=
  "TemplateCache \x7b entries: " ++ toString cache.size ++ ", hits: " ++ toString cache.hits ++
    ", misses: " ++ toString cache.misses ++ " \x7d"

/-- The outcome of a look-up: its result, the cache after it, and its report. -/
structure Lookup where
  result : Except TemplateError Entry
  cache : TemplateCache
  event : Event

/-- The stored template of a text, which is read and stored at its first look-up. -/
def resolve (cache : TemplateCache) (raw : String) : Lookup :=
  match cache.get? raw with
  | some entry => ⟨.ok entry, { cache with hits := cache.hits + 1 }, .hit raw⟩
  | none =>
    let counted := { cache with misses := cache.misses + 1 }
    match UrlTemplate.parse raw with
    | .error e => ⟨.error e, counted, .rejected raw e⟩
    | .ok template =>
      let entry : Entry := ⟨cache.size, template⟩
      let stored := { counted with entries := counted.entries.insert raw entry }
      ⟨.ok entry, stored, .stored raw stored.size⟩

end TemplateCache

end RestTemplates
