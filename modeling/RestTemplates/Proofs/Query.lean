import RestTemplates.Proofs.Form
import RestTemplates.Proofs.MultiMap
import RestTemplates.Query

/-!
# Query round trip — a written query is read back

Writing lists the pairs in key order, and reading groups them under their keys again.  So reading a
written query needs three facts: each key and value is read back (`decodeComponent_encodeText`), the
pairs are cut apart where they were joined (`Form.splitPairs_encode`), and a map is collected from
its own pairs (`MultiMap.ofPairs_pairs`).

This module proves:

* `parse_encode`, a written query is read back,
* `encode_round_trip`, with what it says about the empty text, about different queries, and about
  texts that are read, written and read again.
-/

namespace RestTemplates

namespace Query

/-! ## Reading -/

theorem decodeComponent_encodeText (text : String) :
    decodeComponent (Form.encodeText text) = .ok text := by
  rw [decodeComponent, if_pos (Form.wellFormed_encodeText text), Form.decodeBytes_encodeText,
    Utf8.decode?_encode]

theorem decodePair_encodeText (pair : String × String) :
    decodePair (Form.encodeText pair.1, Form.encodeText pair.2) = .ok pair := by
  rw [decodePair, decodeComponent_encodeText, decodeComponent_encodeText]
  rfl

theorem mapM_decodePair (pairs : List (String × String)) :
    (pairs.map fun pair => (Form.encodeText pair.1, Form.encodeText pair.2)).mapM decodePair =
      .ok pairs := by
  induction pairs with
  | nil => rfl
  | cons pair rest ih =>
      rw [List.map_cons, List.mapM_cons, decodePair_encodeText, ih]
      rfl

/-- A written list of pairs is read as the map of these pairs. -/
theorem parse_form_encode (pairs : List (String × String)) :
    parse (Form.encode pairs) = .ok (MultiMap.ofPairs pairs) := by
  rw [parse, Form.splitPairs_encode, mapM_decodePair]

theorem parse_encode (q : Query) : parse q.encode = .ok q := by
  rw [encode, parse_form_encode, MultiMap.ofPairs_pairs]

theorem encode_eq_empty_iff {q : Query} : q.encode = "" ↔ q.keys = [] := by
  rw [encode, Form.encode_eq_empty_iff, MultiMap.pairs_eq_nil_iff]

/-! ## Merging -/

/-- The values of both queries, those of the second behind those of the first. -/
theorem values_merge_append (q q' : Query) (key : String) :
    (q.merge .append q').values key = q.values key ++ q'.values key := by
  rw [merge, MultiMap.values_mergeWith]
  cases h : q'.values? key with
  | none =>
      rw [MultiMap.values?_eq_none_iff_values.1 h, List.append_nil]
      rfl
  | some group =>
      rw [(MultiMap.values?_eq_some_iff.1 h).2]
      rfl

/-! ## Queries built by the operations -/

/-- The queries that the operations make of the empty one. -/
inductive Built : Query → Prop
  | empty : Built .empty
  | parse {raw : String} {q : Query} : parse raw = .ok q → Built q
  | collect (pairs : List (String × String)) : Built (.ofPairs pairs)
  | append {q : Query} (key value : String) : Built q → Built (q.append key value)
  | replace {q : Query} (key : String) (group : List String) :
      Built q → Built (q.replace key group)
  | remove {q : Query} (key : String) : Built q → Built (q.remove key)
  | merge (policy : MergePolicy) {q overrides : Query} :
      Built q → Built overrides → Built (merge policy q overrides)

/-- The type has no other queries than these. -/
theorem built (q : Query) : Built q := by
  rw [← MultiMap.ofPairs_pairs q]
  exact .collect q.pairs

/-- Every query is built by the operations, is read back from its text, and has the empty text only
if it has no key.  So different queries have different texts, and a text that can be read is read
the same after it has been written anew. -/
theorem encode_round_trip :
    (∀ q : Query, Built q ∧ parse q.encode = .ok q ∧ (q.encode = "" ↔ q.keys = [])) ∧
    Function.Injective encode ∧
    ∀ (raw : String) (q : Query), parse raw = .ok q → parse q.encode = parse raw := by
  -- both consequences take one query to its text and back
  refine ⟨?_, ?_, ?_⟩
  · intro q
    exact ⟨built q, parse_encode q, encode_eq_empty_iff⟩
  · intro q q' h
    have hparse : parse q.encode = parse q'.encode := congrArg parse h
    rw [parse_encode, parse_encode] at hparse
    exact Except.ok.inj hparse
  · intro raw q h
    rw [h, parse_encode]

end Query

end RestTemplates
