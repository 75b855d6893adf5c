import RestTemplates.Diagnostics.Basic
import RestTemplates.Proofs.MultiMap

/-!
# Secrets — headers whose values are for the other side only

Credentials are told by the names of their headers.  Two lists of headers that differ in nothing but
the values of such headers cannot be told apart by what is shown of them, by their number, or by the
values of other headers, and the operations on lists keep them so.

This file defines:

* `HeaderName.HoldsSecret`, the names of headers that hold secrets,
* `Headers.DifferInSecrets`, two lists that have all but secrets in common.

It proves:

* `HeaderName.isSensitive_iff`, these are the names that diagnostics know,
* `Headers.shown_eq_iff`, which lists are shown alike,
* `Headers.DifferInSecrets.shown_eq` and `count_eq`, what is shown of the lists is the same,
* `set`, `append` and `laidOver`, the operations make no other differences.
-/

namespace RestTemplates

/-! ## Names -/

namespace HeaderName

/-- A header of this name carries a credential. -/
def HoldsSecret (name : HeaderName) : Prop :=
  name ∈ ["authorization", "proxy-authorization", "cookie", "set-cookie"] ∨
    (∃ part ∈ ["token", "secret", "api-key", "apikey"], part.toList <:+: name.toList) ∨
    "-key".toList <:+ name.toList

theorem isSensitive_iff {name : HeaderName} : isSensitive name = true ↔ HoldsSecret name := by
  rw [isSensitive, Bool.or_eq_true, Bool.or_eq_true, List.contains_iff_mem, List.any_eq_true,
    List.isSuffixOf_iff_suffix, or_assoc, HoldsSecret]
  simp only [occursIn_iff]

instance : DecidablePred HoldsSecret := fun name =>
  decidable_of_iff (isSensitive name = true) isSensitive_iff

end HeaderName

theorem HeaderValue.shown_of_holdsSecret {name : HeaderName} (h : HeaderName.HoldsSecret name)
    (value : HeaderValue) : HeaderValue.shown name value = "<redacted>" :=
  if_pos (HeaderName.isSensitive_iff.2 h)

/-! ## Lists -/

namespace Headers

/-- The shown values of a name are found among the lines. -/
theorem valuesIn_shown (headers : Headers) (name : HeaderName) :
    MultiMap.valuesIn (shown headers) name =
      (headers.values name).map (HeaderValue.shown name) := by
  have hvalues : MultiMap.valuesIn headers.pairs name = headers.values name := by
    have hpairs := headers.values_ofPairs_pairs name
    rwa [MultiMap.values_ofPairs] at hpairs
  rw [← hvalues, MultiMap.valuesIn, MultiMap.valuesIn, shown, List.filter_map, List.map_map,
    List.map_map]
  refine List.map_congr_left ?_
  intro header hheader
  have hname : header.1 = name := by
    simpa using (List.mem_filter.1 hheader).2
  rw [Function.comp_apply, Function.comp_apply, hname]

/-- Two lists are shown alike exactly if the values of each name are: nothing else is hidden. -/
theorem shown_eq_iff {headers others : Headers} :
    shown headers = shown others ↔
      ∀ name, (headers.values name).map (HeaderValue.shown name) =
        (others.values name).map (HeaderValue.shown name) := by
  constructor
  · intro h name
    rw [← valuesIn_shown, ← valuesIn_shown, h]
  · intro h
    have hkeys : headers.keys = others.keys := by
      refine MultiMap.keys_eq_of_values ?_
      intro name
      rw [← List.map_eq_nil_iff, h name, List.map_eq_nil_iff]
    -- the lines of one name after the other, each of them with its name in front
    have hshown : ∀ list : Headers, shown list =
        list.keys.flatMap fun name =>
          ((list.values name).map (HeaderValue.shown name)).map (name, ·) := by
      intro list
      rw [shown, MultiMap.pairs_eq_flatMap_keys, List.map_flatMap]
      simp only [List.map_map, Function.comp_def]
    calc shown headers
        = headers.keys.flatMap fun name =>
            ((headers.values name).map (HeaderValue.shown name)).map (name, ·) := hshown headers
      _ = others.keys.flatMap fun name =>
            ((others.values name).map (HeaderValue.shown name)).map (name, ·) := by
          simp only [hkeys, h]
      _ = shown others := (hshown others).symm

/-- Two lists with the same names, as many values of each name, and the same values of all names but
those that hold secrets. -/
structure DifferInSecrets (headers others : Headers) : Prop where
  length : ∀ name, (headers.values name).length = (others.values name).length
  same : ∀ name, ¬ HeaderName.HoldsSecret name → headers.values name = others.values name

namespace DifferInSecrets

variable {headers others : Headers}

theorem refl (headers : Headers) : DifferInSecrets headers headers :=
  ⟨fun _ => rfl, fun _ _ => rfl⟩

theorem values_eq_nil_iff (h : DifferInSecrets headers others) (name : HeaderName) :
    headers.values name = [] ↔ others.values name = [] := by
  rw [← List.length_eq_zero_iff, ← List.length_eq_zero_iff, h.length name]

/-! ## What is seen of them -/

theorem contains_eq (h : DifferInSecrets headers others) (name : HeaderName) :
    headers.contains name = others.contains name := by
  refine Bool.eq_iff_iff.2 ?_
  rw [MultiMap.contains_iff, MultiMap.contains_iff]
  exact not_congr (h.values_eq_nil_iff name)

theorem text?_eq (h : DifferInSecrets headers others) {name : HeaderName}
    (hname : ¬ HeaderName.HoldsSecret name) :
    Headers.text? headers name = Headers.text? others name := by
  have hvalues := h.same name hname
  rw [text?, text?, MultiMap.first?, MultiMap.first?, hvalues]

theorem map_shown_eq (h : DifferInSecrets headers others) (name : HeaderName) :
    (headers.values name).map (HeaderValue.shown name) =
      (others.values name).map (HeaderValue.shown name) := by
  by_cases hname : HeaderName.HoldsSecret name
  · -- all values look the same, and there are as many of them
    have hconst : HeaderValue.shown name = fun _ => "<redacted>" :=
      funext (HeaderValue.shown_of_holdsSecret hname)
    rw [hconst, List.map_const', List.map_const', h.length name]
  · rw [h.same name hname]

theorem shown_eq (h : DifferInSecrets headers others) :
    Headers.shown headers = Headers.shown others :=
  shown_eq_iff.2 h.map_shown_eq

theorem count_eq (h : DifferInSecrets headers others) : count headers = count others := by
  have hshown : ∀ list : Headers, (Headers.shown list).length = count list := by
    intro list
    rw [shown, List.length_map, count]
  calc count headers
      = (Headers.shown headers).length := (hshown headers).symm
    _ = (Headers.shown others).length := congrArg List.length h.shown_eq
    _ = count others := hshown others

/-! ## What is done with them -/

theorem set (h : DifferInSecrets headers others) {name : HeaderName} {value other : HeaderValue}
    (hvalue : ¬ HeaderName.HoldsSecret name → value = other) :
    DifferInSecrets (Headers.set headers name value) (Headers.set others name other) where
  length := by
    intro asked
    rw [Headers.set, Headers.set, MultiMap.values_replace, MultiMap.values_replace]
    split
    · rfl
    · exact h.length asked
  same := by
    intro asked hasked
    rw [Headers.set, Headers.set, MultiMap.values_replace, MultiMap.values_replace]
    split
    · next heq => rw [hvalue (heq ▸ hasked)]
    · exact h.same asked hasked

/-- A value for a name that has none, in both lists or in neither. -/
theorem withDefault (h : DifferInSecrets headers others) (name : HeaderName)
    (value : HeaderValue) :
    DifferInSecrets (if headers.contains name then headers else Headers.set headers name value)
      (if others.contains name then others else Headers.set others name value) := by
  rw [h.contains_eq name]
  split
  · exact h
  · exact h.set fun _ => rfl

theorem append (h : DifferInSecrets headers others) {name : HeaderName} {value other : HeaderValue}
    (hvalue : ¬ HeaderName.HoldsSecret name → value = other) :
    DifferInSecrets (headers.append name value) (others.append name other) where
  length := by
    intro asked
    rw [MultiMap.values_append, MultiMap.values_append]
    split
    · rw [List.length_append, List.length_append, h.length asked]
      rfl
    · exact h.length asked
  same := by
    intro asked hasked
    rw [MultiMap.values_append, MultiMap.values_append]
    split
    · next heq => rw [hvalue (heq ▸ hasked), h.same asked hasked]
    · exact h.same asked hasked

end DifferInSecrets

theorem values_laidOver (own defaults : Headers) (name : HeaderName) :
    (laidOver own defaults).values name =
      if own.values name = [] then defaults.values name else own.values name := by
  rw [laidOver, MultiMap.values_mergeWith]
  cases hvalues : own.values? name with
  | none =>
      have hnil : own.values name = [] := by
        simp [MultiMap.values, hvalues]
      rw [if_pos hnil]
      rfl
  | some group =>
      have hgroup := MultiMap.values?_eq_some_iff.1 hvalues
      rw [hgroup.2, if_neg hgroup.1]
      rfl

/-- Whether defaults count does not depend on secrets. -/
theorem DifferInSecrets.laidOver {own own' defaults defaults' : Headers}
    (h : DifferInSecrets own own') (hdefaults : DifferInSecrets defaults defaults') :
    DifferInSecrets (laidOver own defaults) (Headers.laidOver own' defaults') where
  length := by
    intro name
    rw [values_laidOver, values_laidOver]
    simp only [h.values_eq_nil_iff name]
    split
    · exact hdefaults.length name
    · exact h.length name
  same := by
    intro name hname
    rw [values_laidOver, values_laidOver, h.same name hname, hdefaults.same name hname]

end Headers

end RestTemplates
