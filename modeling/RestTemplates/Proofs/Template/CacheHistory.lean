import Mathlib.Data.List.Dedup
import RestTemplates.Proofs.Dictionary
import RestTemplates.Template.Cache

/-!
# Cache histories — what a run of operations leaves in a template cache

A cache is only ever changed by `TemplateCache.resolve`.  This module runs lists of operations on a
cache, records every operation with its reply, and ties the record to the cache.

This file defines:

* `TemplateCache.Op` and `TemplateCache.Reply`, with `step` and `run`,
* `TemplateCache.Reflects`, the invariant between a cache and the record of its operations,
* `TemplateCache.Reachable`, the caches that some run leaves.

The main statement is `run_transparent_exact`: look-ups cannot be told from reading afresh, stored
templates are shared by raw text and kept, and the counters count the record.
-/

namespace RestTemplates

namespace TemplateCache

/-! ## Operations and records -/

inductive Op
  | resolve (raw : String)
  | get (raw : String)
  | contains (raw : String)
  | len
  | stats
  deriving DecidableEq, Repr

inductive Reply
  | resolved (result : Except TemplateError Entry)
  | found (result : Option Entry)
  | present (answer : Bool)
  | length (count : Nat)
  | counters (stats : Stats)

/-- One operation: its reply and the cache after it. -/
def step (cache : TemplateCache) : Op → Reply × TemplateCache
  | .resolve raw => (.resolved (cache.resolve raw).result, (cache.resolve raw).cache)
  | .get raw => (.found (cache.get? raw), cache)
  | .contains raw => (.present (cache.contains raw), cache)
  | .len => (.length cache.size, cache)
  | .stats => (.counters cache.stats, cache)

/-- Operations with their replies, in the order in which they were made. -/
abbrev History := List (Op × Reply)

/-- The record of some operations, and the cache after them. -/
def run (cache : TemplateCache) : List Op → History × TemplateCache
  | [] => ([], cache)
  | op :: ops =>
      let answered := cache.step op
      let rest := run answered.2 ops
      ((op, answered.1) :: rest.1, rest.2)

namespace History

/-- The raw text of a look-up that gave a template. -/
def text? : Op × Reply → Option String
  | (.resolve raw, .resolved (.ok _)) => some raw
  | _ => none

def isFailure : Op × Reply → Bool
  | (.resolve _, .resolved (.error _)) => true
  | _ => false

def isLookup : Op × Reply → Bool
  | (.resolve _, _) => true
  | _ => false

/-- The distinct raw texts that were looked up with success. -/
def texts (history : History) : List String := (history.filterMap text?).dedup

def failures (history : History) : Nat := history.countP isFailure

def lookups (history : History) : Nat := history.countP isLookup

theorem mem_texts {history : History} {raw : String} :
    raw ∈ texts history ↔ ∃ entry, (Op.resolve raw, Reply.resolved (.ok entry)) ∈ history := by
  rw [texts, List.mem_dedup, List.mem_filterMap]
  constructor
  · rintro ⟨⟨op, reply⟩, hmem, htext⟩
    cases op <;> cases reply <;> try cases htext
    next other result =>
      cases result with
      | error e =>
          cases htext
      | ok entry =>
          cases htext
          exact ⟨entry, hmem⟩
  · rintro ⟨entry, hmem⟩
    exact ⟨_, hmem, rfl⟩

end History

/-! ## One look-up -/

/-- What a look-up does: it finds the text, or it fails to read it, or it reads and stores it. -/
theorem resolve_cases (cache : TemplateCache) (raw : String) :
    (∃ entry, cache.get? raw = some entry ∧
      cache.resolve raw = ⟨.ok entry, { cache with hits := cache.hits + 1 }, .hit raw⟩) ∨
    (∃ e, cache.get? raw = none ∧ UrlTemplate.parse raw = .error e ∧
      cache.resolve raw =
        ⟨.error e, { cache with misses := cache.misses + 1 }, .rejected raw e⟩) ∨
    (∃ template, cache.get? raw = none ∧ UrlTemplate.parse raw = .ok template ∧
      (cache.resolve raw).result = .ok ⟨cache.size, template⟩ ∧
      (cache.resolve raw).cache =
        { entries := cache.entries.insert raw ⟨cache.size, template⟩
          hits := cache.hits
          misses := cache.misses + 1 }) := by
  cases hget : cache.get? raw with
  | some entry =>
      exact .inl ⟨entry, rfl, by simp [resolve, hget]⟩
  | none =>
      cases hparse : UrlTemplate.parse raw with
      | error e =>
          exact .inr (.inl ⟨e, rfl, rfl, by simp [resolve, hget, hparse]⟩)
      | ok template =>
          exact .inr (.inr ⟨template, rfl, rfl, by simp [resolve, hget, hparse],
            by simp [resolve, hget, hparse]⟩)

/-- No operation drops or changes a stored template. -/
theorem get?_step {cache : TemplateCache} {raw : String} {entry : Entry} (op : Op)
    (h : cache.get? raw = some entry) : (cache.step op).2.get? raw = some entry := by
  cases op with
  | resolve other =>
      rcases resolve_cases cache other with
        ⟨_, _, hres⟩ | ⟨_, _, _, hres⟩ | ⟨template, hnone, _, _, hcache⟩
      · simpa [step, hres, get?] using h
      · simpa [step, hres, get?] using h
      · -- what is stored now was not stored before, so it is another text
        have hne : raw ≠ other := by
          rintro rfl
          simp [h] at hnone
        simpa [step, hcache, get?, Dictionary.find?_insert, hne] using h
  | get _ => exact h
  | contains _ => exact h
  | len => exact h
  | stats => exact h

/-! ## Caches and their records -/

/-- What ties a cache to the record of the operations that led to it. -/
structure Reflects (cache : TemplateCache) (history : History) : Prop where
  /-- A stored template is what its raw text reads as. -/
  sound : ∀ {raw entry}, cache.get? raw = some entry → UrlTemplate.parse raw = .ok entry.template
  /-- The stored templates are those that look-ups gave. -/
  logged : ∀ {raw entry},
    cache.get? raw = some entry ↔ (Op.resolve raw, Reply.resolved (.ok entry)) ∈ history
  /-- A refused text is one that cannot be read, for the reason given. -/
  refused : ∀ {raw e},
    (Op.resolve raw, Reply.resolved (.error e)) ∈ history → UrlTemplate.parse raw = .error e
  /-- The numbers handed out so far are smaller than the next one. -/
  numbered : ∀ {raw entry}, cache.get? raw = some entry → entry.id < cache.size
  /-- No number is handed out twice. -/
  distinct : ∀ {raw raw' entry entry'}, cache.get? raw = some entry →
    cache.get? raw' = some entry' → entry.id = entry'.id → raw = raw'
  misses : cache.misses = cache.size + history.failures
  lookups : cache.hits + cache.misses = history.lookups

namespace Reflects

variable {cache : TemplateCache} {history : History}

theorem nil : Reflects empty [] where
  sound := by
    intro raw entry h
    simp [empty, get?] at h
  logged := by
    intro raw entry
    simp [empty, get?]
  refused := by
    intro raw e h
    cases h
  numbered := by
    intro raw entry h
    simp [empty, get?] at h
  distinct := by
    intro raw raw' entry entry' h
    simp [empty, get?] at h
  misses := rfl
  lookups := rfl

/-- An operation that is no look-up leaves the cache alone, and the record keeps its counts. -/
theorem observe {op : Op} {reply : Reply} (h : Reflects cache history)
    (hop : ∀ raw, op ≠ .resolve raw) : Reflects cache (history ++ [(op, reply)]) := by
  have hne : ∀ raw result, (Op.resolve raw, Reply.resolved result) ≠ (op, reply) := by
    intro raw result heq
    exact hop raw (congrArg Prod.fst heq).symm
  have hcounts : History.isFailure (op, reply) = false ∧ History.isLookup (op, reply) = false := by
    cases op with
    | resolve raw => exact absurd rfl (hop raw)
    | get _ => exact ⟨rfl, rfl⟩
    | contains _ => exact ⟨rfl, rfl⟩
    | len => exact ⟨rfl, rfl⟩
    | stats => exact ⟨rfl, rfl⟩
  exact {
    sound := h.sound
    logged := by
      intro raw entry
      rw [h.logged, List.mem_append, List.mem_singleton]
      exact ⟨.inl, fun hor => hor.resolve_right (hne _ _)⟩
    refused := by
      intro raw e hmem
      rcases List.mem_append.1 hmem with hold | hnew
      · exact h.refused hold
      · exact absurd (List.mem_singleton.1 hnew) (hne _ _)
    numbered := h.numbered
    distinct := h.distinct
    misses := by
      simpa [History.failures, List.countP_append, hcounts.1] using h.misses
    lookups := by
      simpa [History.lookups, List.countP_append, hcounts.2] using h.lookups }

theorem mem_snoc_iff {history : History} {raw other : String}
    {result given : Except TemplateError Entry} :
    (Op.resolve other, Reply.resolved given) ∈
        history ++ [(.resolve raw, .resolved result)] ↔
      (Op.resolve other, Reply.resolved given) ∈ history ∨ other = raw ∧ given = result := by
  simp

/-- A look-up that finds its text. -/
theorem hit {raw : String} {entry : Entry} (h : Reflects cache history)
    (hget : cache.get? raw = some entry) :
    Reflects { cache with hits := cache.hits + 1 }
      (history ++ [(.resolve raw, .resolved (.ok entry))]) where
  sound := h.sound
  logged := by
    intro other given
    rw [mem_snoc_iff, ← h.logged]
    constructor
    · exact .inl
    · rintro (hold | ⟨rfl, hnew⟩)
      · exact hold
      · cases hnew
        exact hget
  refused := by
    intro other e hmem
    rcases mem_snoc_iff.1 hmem with hold | ⟨-, hnew⟩
    · exact h.refused hold
    · cases hnew
  numbered := h.numbered
  distinct := h.distinct
  misses := by
    simpa [History.failures, History.isFailure, List.countP_append, size] using h.misses
  lookups := by
    have hlookups := h.lookups
    simp only [History.lookups, History.isLookup, List.countP_append,
      List.countP_singleton] at hlookups ⊢
    simp
    omega

/-- A look-up whose text cannot be read. -/
theorem reject {raw : String} {e : TemplateError} (h : Reflects cache history)
    (hparse : UrlTemplate.parse raw = .error e) :
    Reflects { cache with misses := cache.misses + 1 }
      (history ++ [(.resolve raw, .resolved (.error e))]) where
  sound := h.sound
  logged := by
    intro other given
    rw [mem_snoc_iff, ← h.logged]
    constructor
    · exact .inl
    · rintro (hold | ⟨-, hnew⟩)
      · exact hold
      · cases hnew
  refused := by
    intro other e' hmem
    rcases mem_snoc_iff.1 hmem with hold | ⟨rfl, hnew⟩
    · exact h.refused hold
    · cases hnew
      exact hparse
  numbered := h.numbered
  distinct := h.distinct
  misses := by
    have hmisses := h.misses
    simp [History.failures, History.isFailure, List.countP_append, size] at hmisses ⊢
    omega
  lookups := by
    have hlookups := h.lookups
    simp [History.lookups, History.isLookup, List.countP_append] at hlookups ⊢
    omega

/-- A look-up that reads its text and stores the template under the next number. -/
theorem store {raw : String} {template : UrlTemplate} (h : Reflects cache history)
    (hnone : cache.get? raw = none) (hparse : UrlTemplate.parse raw = .ok template) :
    Reflects
      { entries := cache.entries.insert raw ⟨cache.size, template⟩
        hits := cache.hits
        misses := cache.misses + 1 }
      (history ++ [(.resolve raw, .resolved (.ok ⟨cache.size, template⟩))]) := by
  have hsize : (cache.entries.insert raw ⟨cache.size, template⟩).size = cache.size + 1 :=
    Dictionary.size_insert_of_find?_eq_none _ hnone
  -- a text is now either the new one, with the new entry, or an old one with its old entry
  have hget : ∀ {other entry},
      (cache.entries.insert raw ⟨cache.size, template⟩).find? other = some entry ↔
        (other = raw ∧ entry = ⟨cache.size, template⟩) ∨ cache.get? other = some entry := by
    intro other entry
    rw [Dictionary.find?_insert]
    by_cases hother : other = raw
    · subst hother
      simp [hnone, eq_comm]
    · simp [hother, get?]
  exact {
    sound := by
      intro other entry hother
      rcases hget.1 hother with ⟨rfl, rfl⟩ | hold
      · exact hparse
      · exact h.sound hold
    logged := by
      intro other entry
      rw [mem_snoc_iff, ← h.logged]
      refine hget.trans (or_comm.trans (or_congr Iff.rfl (and_congr Iff.rfl ?_)))
      exact ⟨congrArg Except.ok, Except.ok.inj⟩
    refused := by
      intro other e hmem
      rcases mem_snoc_iff.1 hmem with hold | ⟨-, hnew⟩
      · exact h.refused hold
      · cases hnew
    numbered := by
      intro other entry hother
      refine lt_of_lt_of_eq ?_ hsize.symm
      rcases hget.1 hother with ⟨-, rfl⟩ | hold
      · exact Nat.lt_succ_self _
      · exact Nat.lt_succ_of_lt (h.numbered hold)
    distinct := by
      intro other other' entry entry' hother hother' hid
      rcases hget.1 hother with ⟨rfl, rfl⟩ | hold <;>
        rcases hget.1 hother' with ⟨rfl, rfl⟩ | hold'
      · rfl
      · exact absurd hid (Nat.ne_of_gt (h.numbered hold'))
      · exact absurd hid (Nat.ne_of_lt (h.numbered hold))
      · exact h.distinct hold hold' hid
    misses := by
      have hmisses := h.misses
      simp only [size] at hmisses hsize ⊢
      simp [History.failures, History.isFailure, List.countP_append] at hmisses ⊢
      omega
    lookups := by
      have hlookups := h.lookups
      simp [History.lookups, History.isLookup, List.countP_append] at hlookups ⊢
      omega }

theorem step (h : Reflects cache history) (op : Op) :
    Reflects (cache.step op).2 (history ++ [(op, (cache.step op).1)]) := by
  cases op with
  | resolve raw =>
      rcases resolve_cases cache raw with
        ⟨entry, hget, hres⟩ | ⟨e, _, hparse, hres⟩ | ⟨template, hnone, hparse, hresult, hcache⟩
      · simpa [TemplateCache.step, hres] using h.hit hget
      · simpa [TemplateCache.step, hres] using h.reject hparse
      · simpa [TemplateCache.step, hresult, hcache] using h.store hnone hparse
  | get raw => exact h.observe (by simp)
  | contains raw => exact h.observe (by simp)
  | len => exact h.observe (by simp)
  | stats => exact h.observe (by simp)

theorem run (h : Reflects cache history) (ops : List Op) :
    Reflects (cache.run ops).2 (history ++ (cache.run ops).1) := by
  induction ops generalizing cache history with
  | nil =>
      simpa [TemplateCache.run] using h
  | cons op ops ih =>
      simpa [TemplateCache.run, List.append_assoc] using ih (h.step op)

theorem size_eq (h : Reflects cache history) : cache.size = history.texts.length := by
  have hnodup : history.texts.Nodup := List.nodup_dedup _
  have hperm : cache.entries.keys.Perm history.texts := by
    refine (List.perm_ext_iff_of_nodup cache.entries.nodup_keys hnodup).2 ?_
    intro raw
    rw [Dictionary.mem_keys_iff, History.mem_texts]
    exact exists_congr fun entry => h.logged
  rw [size, ← Dictionary.length_keys]
  exact hperm.length_eq

/-- Two look-ups gave one stored template exactly if they were for one text. -/
theorem id_eq_iff {raw raw' : String} {entry entry' : Entry} (h : Reflects cache history)
    (hmem : (Op.resolve raw, Reply.resolved (.ok entry)) ∈ history)
    (hmem' : (Op.resolve raw', Reply.resolved (.ok entry')) ∈ history) :
    (entry.id = entry'.id ↔ raw = raw') ∧ (raw = raw' → entry = entry') := by
  have hget := h.logged.2 hmem
  have hget' := h.logged.2 hmem'
  have hsame : raw = raw' → entry = entry' := by
    rintro rfl
    exact Option.some.inj (hget.symm.trans hget')
  exact ⟨⟨h.distinct hget hget', fun heq => congrArg Entry.id (hsame heq)⟩, hsame⟩

/-- Every look-up on record gave what its text reads as. -/
theorem result_eq_parse {raw : String} {result : Except TemplateError Entry}
    (h : Reflects cache history) (hmem : (Op.resolve raw, Reply.resolved result) ∈ history) :
    result.map (·.template) = UrlTemplate.parse raw := by
  cases result with
  | error e =>
      exact (h.refused hmem).symm
  | ok entry =>
      exact (h.sound (h.logged.2 hmem)).symm

theorem get_eq_iff (h : Reflects cache history) (raw : String) (entry : Entry) :
    (cache.step (.get raw)).1 = .found (some entry) ↔
      (Op.resolve raw, Reply.resolved (.ok entry)) ∈ history := by
  rw [← h.logged]
  exact ⟨Reply.found.inj, congrArg Reply.found⟩

theorem contains_eq (h : Reflects cache history) (raw : String) :
    (cache.step (.contains raw)).1 = .present (decide (raw ∈ history.texts)) := by
  have hmem : raw ∈ history.texts ↔ ∃ entry, cache.get? raw = some entry := by
    rw [History.mem_texts]
    exact exists_congr fun entry => h.logged.symm
  have hiff : cache.contains raw = true ↔ raw ∈ history.texts := by
    rw [hmem]
    exact Option.isSome_iff_exists
  exact congrArg Reply.present (Bool.eq_iff_iff.2 (hiff.trans decide_eq_true_iff.symm))

end Reflects

/-! ## Runs of a new cache -/

theorem reflects_run (ops : List Op) : Reflects (run empty ops).2 (run empty ops).1 := by
  simpa using Reflects.nil.run ops

theorem map_fst_run (cache : TemplateCache) (ops : List Op) :
    (cache.run ops).1.map Prod.fst = ops := by
  induction ops generalizing cache with
  | nil => rfl
  | cons op ops ih =>
      simp [run, ih]

/-- Every reply on record is the reply of some cache to its operation. -/
theorem exists_step_of_mem_run {cache : TemplateCache} {ops : List Op} {op : Op} {reply : Reply}
    (h : (op, reply) ∈ (cache.run ops).1) :
    ∃ cache' : TemplateCache, (cache'.step op).1 = reply := by
  induction ops generalizing cache with
  | nil =>
      cases h
  | cons first ops ih =>
      rcases List.mem_cons.1 h with hfirst | hrest
      · cases hfirst
        exact ⟨cache, rfl⟩
      · exact ih hrest

theorem lookups_run_le (cache : TemplateCache) (ops : List Op) :
    (cache.run ops).1.lookups ≤ ops.length := by
  calc (cache.run ops).1.lookups
      ≤ (cache.run ops).1.length := List.countP_le_length
    _ = ((cache.run ops).1.map Prod.fst).length := by rw [List.length_map]
    _ = ops.length := by rw [map_fst_run]

/-- A refused text costs one miss and nothing else. -/
theorem step_resolve_of_error {cache : TemplateCache} {raw : String} {e : TemplateError}
    (h : (cache.step (.resolve raw)).1 = .resolved (.error e)) :
    (cache.step (.resolve raw)).2 = { cache with misses := cache.misses + 1 } := by
  have herror : (cache.resolve raw).result = .error e := Reply.resolved.inj h
  rcases resolve_cases cache raw with ⟨_, _, hres⟩ | ⟨_, _, _, hres⟩ | ⟨_, _, _, hresult, _⟩
  · rw [hres] at herror
    cases herror
  · exact congrArg Lookup.cache hres
  · rw [hresult] at herror
    cases herror

/-- After any operations on a new cache: every look-up on record gave what its text reads as, or the
reason why it cannot be read; equal texts, and only these, share a stored template, which `get`
finds; the counters count the record, and together they cannot exceed the number of operations; and
whatever comes next keeps every stored template. -/
theorem run_transparent_exact (ops : List Op) :
    let history := (run empty ops).1
    let cache := (run empty ops).2
    history.map Prod.fst = ops ∧
    (∀ raw reply, (Op.resolve raw, reply) ∈ history →
      ∃ result, reply = .resolved result ∧ result.map (·.template) = UrlTemplate.parse raw) ∧
    (∀ raw raw' entry entry', (Op.resolve raw, Reply.resolved (.ok entry)) ∈ history →
      (Op.resolve raw', Reply.resolved (.ok entry')) ∈ history →
      (entry.id = entry'.id ↔ raw = raw') ∧ (raw = raw' → entry = entry')) ∧
    (∀ raw entry, (cache.step (.get raw)).1 = .found (some entry) ↔
      (Op.resolve raw, Reply.resolved (.ok entry)) ∈ history) ∧
    (∀ raw, (cache.step (.contains raw)).1 = .present (decide (raw ∈ history.texts))) ∧
    (cache.step .len).1 = .length history.texts.length ∧
    (∃ hits misses, (cache.step .stats).1 = .counters ⟨history.texts.length, hits, misses⟩ ∧
      misses = history.texts.length + history.failures ∧
      hits + misses = history.lookups ∧ hits + misses ≤ ops.length) ∧
    (∀ op raw entry, (cache.step (.get raw)).1 = .found (some entry) →
      ((cache.step op).2.step (.get raw)).1 = .found (some entry)) ∧
    (∀ raw e, (cache.step (.resolve raw)).1 = .resolved (.error e) →
      (cache.step (.resolve raw)).2 = { cache with misses := cache.misses + 1 }) := by
  intro history cache
  have h : Reflects cache history := reflects_run ops
  refine ⟨map_fst_run empty ops, ?_, ?_, h.get_eq_iff, h.contains_eq, ?_, ?_, ?_, ?_⟩
  · intro raw reply hmem
    rcases exists_step_of_mem_run hmem with ⟨cache', rfl⟩
    exact ⟨_, rfl, h.result_eq_parse hmem⟩
  · intro raw raw' entry entry' hmem hmem'
    exact h.id_eq_iff hmem hmem'
  · exact congrArg Reply.length h.size_eq
  · refine ⟨cache.hits, cache.misses, ?_, ?_, h.lookups, ?_⟩
    · exact congrArg (fun n => Reply.counters ⟨n, cache.hits, cache.misses⟩) h.size_eq
    · rw [← h.size_eq]
      exact h.misses
    · rw [h.lookups]
      exact lookups_run_le empty ops
  · intro op raw entry hfound
    exact congrArg Reply.found (get?_step op (Reply.found.inj hfound))
  · intro raw e herror
    exact step_resolve_of_error herror

/-! ## Reachable caches -/

/-- Some operations on a new cache lead to this one. -/
def Reachable (cache : TemplateCache) : Prop := ∃ ops, (run empty ops).2 = cache

theorem reachable_empty : Reachable empty := ⟨[], rfl⟩

theorem run_concat (cache : TemplateCache) (ops : List Op) (op : Op) :
    (run cache (ops ++ [op])).2 = ((run cache ops).2.step op).2 := by
  induction ops generalizing cache with
  | nil => rfl
  | cons first ops ih => exact ih (cache.step first).2

theorem Reachable.resolve {cache : TemplateCache} (h : cache.Reachable) (raw : String) :
    (cache.resolve raw).cache.Reachable := by
  obtain ⟨ops, rfl⟩ := h
  exact ⟨ops ++ [.resolve raw], run_concat empty ops (.resolve raw)⟩

/-- A reachable cache cannot be told from reading the text afresh. -/
theorem Reachable.map_template_resolve {cache : TemplateCache} (h : cache.Reachable)
    (raw : String) : (cache.resolve raw).result.map (·.template) = UrlTemplate.parse raw := by
  rcases h with ⟨ops, rfl⟩
  have hnext := (reflects_run ops).step (.resolve raw)
  exact hnext.result_eq_parse (List.mem_append_right _ List.mem_cons_self)

end TemplateCache

end RestTemplates
