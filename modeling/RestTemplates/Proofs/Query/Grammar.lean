import RestTemplates.Proofs.Fallible
import RestTemplates.Proofs.Form.Reading
import RestTemplates.Proofs.Query

/-!
# Query grammar — which texts are queries, and which queries they are

A query is a list of pairs between `&`, each with a key before its first `=` and a value behind it.
It can be read if every percent sign has its two digits and if what keys and values stand for is
UTF-8.  The digits can be looked for in the whole text, since no escape reaches across a separator.

This file defines:

* `Form.HasPairs`, the written pairs of a text,
* `Query.StandsFor` and `Query.Faulty`, what a written key or value stands for, or why for nothing,
* `Query.components`, the written keys and values in their order.

It proves:

* `Form.hasPairs_iff`, the pairs are those that are split off,
* `Query.decodeComponent_eq_ok_iff` and `Query.decodeComponent_eq_error_iff`, one key or value,
* `Query.parse_eq_ok_iff` and `Query.parse_eq_error_iff`, the whole text,
* `Query.read_exactly`, all of this together.
-/

namespace RestTemplates

open Fallible
open Percent (EscapesComplete)

/-! ## Written pairs -/

namespace Form

/-- A written pair is cut at its first equals sign; without one it is all key. -/
inductive IsWrittenPair : List Char → List Char × List Char → Prop
  | intro {piece key : List Char} {value? : Option (List Char)} (cut : CutAt '=' piece key value?) :
      IsWrittenPair piece (key, value?.getD [])

/-- The written pairs of a text: it is joined from pieces by `&`, and empty ones are no pairs. -/
def HasPairs (raw : String) (pairs : List (List Char × List Char)) : Prop :=
  ∃ pieces : List (List Char), raw.toList = ['&'].intercalate pieces ∧
    (∀ piece ∈ pieces, '&' ∉ piece) ∧
    List.Forall₂ IsWrittenPair (pieces.filter (· ≠ [])) pairs

theorem isWrittenPair_iff {piece : List Char} {pair : List Char × List Char} :
    IsWrittenPair piece pair ↔ splitPair piece = pair := by
  constructor
  · rintro ⟨hcut⟩
    rw [splitPair, hcut.span_eq.1, hcut.drop_one_eq]
  · rintro rfl
    obtain ⟨key, value?, hcut⟩ := CutAt.exists_parts '=' piece
    rw [splitPair, hcut.span_eq.1, hcut.drop_one_eq]
    exact .intro hcut

theorem forall₂_isWrittenPair_iff {pieces : List (List Char)}
    {pairs : List (List Char × List Char)} :
    List.Forall₂ IsWrittenPair pieces pairs ↔ pieces.map splitPair = pairs := by
  have hrel : IsWrittenPair = fun piece pair => splitPair piece = pair :=
    funext₂ fun _ _ => propext isWrittenPair_iff
  rw [hrel, ← List.forall₂_map_left_iff (f := splitPair), List.forall₂_eq_eq_eq]

/-- A text has one list of written pairs, and splitting finds it. -/
theorem hasPairs_iff {raw : String} {pairs : List (List Char × List Char)} :
    HasPairs raw pairs ↔ splitPairs raw = pairs := by
  constructor
  · rintro ⟨pieces, hraw, hfree, hpairs⟩
    rw [splitPairs, hraw, ← forall₂_isWrittenPair_iff.1 hpairs]
    by_cases hnil : pieces = []
    · -- the empty text has one piece, which is empty
      rw [hnil]
      rfl
    · rw [List.splitOn_intercalate '&' hfree hnil]
  · rintro rfl
    exact ⟨raw.toList.splitOn '&', (List.intercalate_splitOn '&').symm,
      fun _ => not_mem_of_mem_splitOn, forall₂_isWrittenPair_iff.2 rfl⟩

/-- Joined texts have the pairs of the one and then those of the other. -/
theorem splitPairs_append (raw other : String) :
    splitPairs (raw ++ "&" ++ other) = splitPairs raw ++ splitPairs other := by
  have hchars : (raw ++ "&" ++ other).toList = raw.toList ++ '&' :: other.toList := by
    simp [String.toList_append]
  rw [splitPairs, hchars, List.splitOn_append_cons_self, List.filter_append, List.map_append]
  rfl

end Form

namespace Query

/-! ## One key or value -/

/-- A written key or value stands for a text if it is read as the bytes of the text. -/
def StandsFor (component : List Char) (text : String) : Prop :=
  Form.Reads component (Utf8.encode text)

/-- Why a written key or value stands for no text.  Bytes are looked at only where the escapes are
complete. -/
inductive Faulty (component : List Char) : QueryFault → Prop
  | invalidEscape (broken : ¬ EscapesComplete component) : Faulty component .invalidEscape
  | invalidUtf8 {bytes : Bytes} (read : Form.Reads component bytes)
      (noText : ∀ text, Utf8.encode text ≠ bytes) : Faulty component .invalidUtf8

theorem decodeComponent_of_complete {component : List Char} (h : EscapesComplete component) :
    decodeComponent component =
      (Utf8.decode? (Form.decodeBytes component)).elim (.error .invalidUtf8) .ok := by
  rw [decodeComponent, if_pos (Percent.wellFormed_encode_iff.2 h)]
  cases Utf8.decode? (Form.decodeBytes component) <;> rfl

theorem decodeComponent_of_broken {component : List Char} (h : ¬ EscapesComplete component) :
    decodeComponent component = .error .invalidEscape := by
  rw [decodeComponent, if_neg (mt Percent.wellFormed_encode_iff.1 h)]

theorem decodeComponent_eq_ok_iff {component : List Char} {text : String} :
    decodeComponent component = .ok text ↔ StandsFor component text := by
  rw [StandsFor, Form.reads_iff]
  by_cases h : EscapesComplete component
  · rw [decodeComponent_of_complete h, and_iff_right h, eq_comm (b := Utf8.encode text),
      ← Utf8.decode?_eq_some_iff]
    cases Utf8.decode? (Form.decodeBytes component) <;> simp
  · rw [decodeComponent_of_broken h]
    exact ⟨nofun, fun hread => absurd hread.1 h⟩

theorem decodeComponent_eq_error_iff {component : List Char} {fault : QueryFault} :
    decodeComponent component = .error fault ↔ Faulty component fault := by
  constructor
  · intro herror
    by_cases h : EscapesComplete component
    · obtain ⟨bytes, hread⟩ := Form.exists_reads h
      rw [decodeComponent_of_complete h, Form.decodeBytes_of_reads hread] at herror
      cases hdecode : Utf8.decode? bytes with
      | none =>
          rw [hdecode] at herror
          cases herror
          refine .invalidUtf8 hread ?_
          intro text htext
          rw [Utf8.decode?_eq_some_iff.2 htext] at hdecode
          cases hdecode
      | some text =>
          rw [hdecode] at herror
          cases herror
    · rw [decodeComponent_of_broken h] at herror
      cases herror
      exact .invalidEscape h
  · intro hfault
    cases hfault with
    | invalidEscape hbroken => exact decodeComponent_of_broken hbroken
    | invalidUtf8 hread hnoText =>
        have hdecode := Option.eq_none_iff_forall_ne_some.2 fun text htext =>
          hnoText text (Utf8.decode?_eq_some_iff.1 htext)
        rw [decodeComponent_of_complete (Form.escapesComplete_of_reads hread),
          Form.decodeBytes_of_reads hread, hdecode]
        rfl

/-! ## All keys and values -/

/-- Keys and values in the order in which they are looked at. -/
def components {α : Type} (pairs : List (α × α)) : List α :=
  pairs.flatMap fun pair => [pair.1, pair.2]

/-- A written pair stands for a key with its value. -/
def PairStandsFor (pair : List Char × List Char) (texts : String × String) : Prop :=
  StandsFor pair.1 texts.1 ∧ StandsFor pair.2 texts.2

theorem decodePair_eq_ok_iff {pair : List Char × List Char} {texts : String × String} :
    decodePair pair = .ok texts ↔ PairStandsFor pair texts := by
  rw [PairStandsFor, ← decodeComponent_eq_ok_iff, ← decodeComponent_eq_ok_iff]
  constructor
  · intro h
    obtain ⟨key, hkey, hrest⟩ := bind_eq_ok_iff.1 h
    obtain ⟨value, hvalue, htexts⟩ := bind_eq_ok_iff.1 hrest
    cases htexts
    exact ⟨hkey, hvalue⟩
  · rintro ⟨hkey, hvalue⟩
    rw [decodePair, hkey, hvalue]
    rfl

theorem mapM_decodePair_eq_ok_iff {written : List (List Char × List Char)}
    {pairs : List (String × String)} :
    written.mapM decodePair = .ok pairs ↔ List.Forall₂ PairStandsFor written pairs := by
  have hrel : PairStandsFor = fun pair texts => decodePair pair = .ok texts :=
    funext₂ fun _ _ => propext decodePair_eq_ok_iff.symm
  rw [mapM_eq_ok_iff, hrel]

/-- Pairs are decoded by decoding their keys and values one after the other. -/
theorem mapM_decodeComponent (written : List (List Char × List Char)) :
    (components written).mapM decodeComponent = (written.mapM decodePair).map components := by
  induction written with
  | nil => rfl
  | cons pair rest ih =>
      -- a key that fails keeps its value from being looked at, and both keep the pairs behind them
      have hcomponents : components (pair :: rest) = pair.1 :: pair.2 :: components rest := rfl
      rw [hcomponents, List.mapM_cons, List.mapM_cons, List.mapM_cons, ih, decodePair]
      cases decodeComponent pair.1 with
      | error fault => rfl
      | ok key =>
          cases decodeComponent pair.2 with
          | error fault => rfl
          | ok value =>
              cases rest.mapM decodePair <;> rfl

theorem mapM_decodePair_eq_error_iff {written : List (List Char × List Char)}
    {fault : QueryFault} :
    written.mapM decodePair = .error fault ↔
      ∃ before component after, components written = before ++ component :: after ∧
        (∀ earlier ∈ before, ∃ text, StandsFor earlier text) ∧ Faulty component fault := by
  rw [← map_eq_error_iff (f := components), ← mapM_decodeComponent, mapM_eq_error_iff]
  simp only [decodeComponent_eq_ok_iff, decodeComponent_eq_error_iff]

/-- All pairs stand for texts if each key and each value does. -/
theorem exists_mapM_decodePair_iff {written : List (List Char × List Char)} :
    (∃ pairs, written.mapM decodePair = .ok pairs) ↔
      ∀ component ∈ components written, ∃ text, StandsFor component text := by
  simp only [← decodeComponent_eq_ok_iff]
  rw [← exists_mapM_eq_ok_iff, mapM_decodeComponent]
  simp only [map_eq_ok_iff]
  constructor
  · rintro ⟨pairs, h⟩
    exact ⟨components pairs, pairs, h, rfl⟩
  · rintro ⟨texts, pairs, h, -⟩
    exact ⟨pairs, h⟩

/-! ## Escapes of the whole text -/

/-- An escape in a pair is one in its key or in its value. -/
theorem escapesComplete_components {pieces : List (List Char)}
    {written : List (List Char × List Char)} (h : List.Forall₂ Form.IsWrittenPair pieces written) :
    (∀ component ∈ components written, EscapesComplete component) ↔
      ∀ piece ∈ pieces, EscapesComplete piece := by
  induction h with
  | nil => exact ⟨fun _ => nofun, fun _ => nofun⟩
  | @cons piece pair others pairs hpair _ ih =>
      have hcomponents : components (pair :: pairs) = pair.1 :: pair.2 :: components pairs := rfl
      rw [hcomponents, List.forall_mem_cons, List.forall_mem_cons, List.forall_mem_cons, ih]
      -- what is left is the one pair, which is cut at its equals sign
      cases hpair with
      | intro hcut => rw [Percent.escapesComplete_cutAt hcut, and_assoc]

theorem escapesComplete_iff {raw : String} {written : List (List Char × List Char)}
    (h : Form.HasPairs raw written) :
    EscapesComplete raw.toList ↔ ∀ component ∈ components written, EscapesComplete component := by
  obtain ⟨pieces, hraw, -, hpairs⟩ := h
  rw [hraw, Percent.escapesComplete_intercalate, escapesComplete_components hpairs]
  constructor
  · intro hall piece hpiece
    exact hall piece (List.mem_filter.1 hpiece).1
  · intro hall piece hpiece
    -- an empty piece is no pair, but it has no escape either
    by_cases hnil : piece = []
    · exact hnil ▸ Percent.escapesComplete_nil
    · exact hall piece (List.mem_filter.2 ⟨hpiece, decide_eq_true hnil⟩)

/-! ## The whole text -/

theorem parse_eq_ok_iff_mapM {raw : String} {q : Query} :
    parse raw = .ok q ↔
      ∃ pairs, (Form.splitPairs raw).mapM decodePair = .ok pairs ∧ MultiMap.ofPairs pairs = q := by
  rw [parse]
  cases (Form.splitPairs raw).mapM decodePair <;> simp

theorem parse_eq_error_iff_mapM {raw : String} {e : TemplateError} :
    parse raw = .error e ↔
      ∃ fault, (Form.splitPairs raw).mapM decodePair = .error fault ∧
        .malformedQuery raw fault = e := by
  rw [parse]
  cases (Form.splitPairs raw).mapM decodePair <;> simp

/-- A map is the one of some pairs if each key has the values of its pairs. -/
theorem ofPairs_eq_iff {pairs : List (String × String)} {q : Query} :
    MultiMap.ofPairs pairs = q ↔ ∀ key, q.values key = MultiMap.valuesIn pairs key := by
  constructor
  · rintro rfl key
    exact MultiMap.values_ofPairs pairs key
  · intro h
    refine MultiMap.ext_values ?_
    intro key
    exact (MultiMap.values_ofPairs pairs key).trans (h key).symm

/-- A text is read as a query if its pairs stand for the pairs of the query. -/
theorem parse_eq_ok_iff {raw : String} {written : List (List Char × List Char)}
    (h : Form.HasPairs raw written) {q : Query} :
    parse raw = .ok q ↔ ∃ pairs, List.Forall₂ PairStandsFor written pairs ∧
      ∀ key, q.values key = MultiMap.valuesIn pairs key := by
  simp only [parse_eq_ok_iff_mapM, Form.hasPairs_iff.1 h, mapM_decodePair_eq_ok_iff,
    ofPairs_eq_iff]

/-- The first key or value that stands for no text decides why a text cannot be read. -/
theorem parse_eq_error_iff {raw : String} {written : List (List Char × List Char)}
    (h : Form.HasPairs raw written) {e : TemplateError} :
    parse raw = .error e ↔
      ∃ before component after fault, components written = before ++ component :: after ∧
        (∀ earlier ∈ before, ∃ text, StandsFor earlier text) ∧ Faulty component fault ∧
        e = .malformedQuery raw fault := by
  simp only [parse_eq_error_iff_mapM, Form.hasPairs_iff.1 h, mapM_decodePair_eq_error_iff]
  constructor
  · rintro ⟨fault, ⟨before, component, after, hparts, hbefore, hfault⟩, rfl⟩
    exact ⟨before, component, after, fault, hparts, hbefore, hfault, rfl⟩
  · rintro ⟨before, component, after, fault, hparts, hbefore, hfault, rfl⟩
    exact ⟨fault, ⟨before, component, after, hparts, hbefore, hfault⟩, rfl⟩

/-- Bytes outside UTF-8 decide here, since the incomplete escape stands behind them. -/
example : parse "a=%FF&%zz=1" = .error (.malformedQuery "a=%FF&%zz=1" .invalidUtf8) := by
  decide +kernel

theorem exists_parse_iff {raw : String} {written : List (List Char × List Char)}
    (h : Form.HasPairs raw written) :
    (∃ q, parse raw = .ok q) ↔
      ∀ component ∈ components written, ∃ text, StandsFor component text := by
  rw [← exists_mapM_decodePair_iff]
  simp only [parse_eq_ok_iff_mapM, Form.hasPairs_iff.1 h]
  constructor
  · rintro ⟨q, pairs, hpairs, -⟩
    exact ⟨pairs, hpairs⟩
  · rintro ⟨pairs, hpairs⟩
    exact ⟨_, pairs, hpairs, rfl⟩

/-- Two texts that can be read are read together as the one query followed by the other. -/
theorem parse_append {raw other : String} {q q' : Query} (h : parse raw = .ok q)
    (h' : parse other = .ok q') : parse (raw ++ "&" ++ other) = .ok (q.merge .append q') := by
  obtain ⟨pairs, hpairs, rfl⟩ := parse_eq_ok_iff_mapM.1 h
  obtain ⟨pairs', hpairs', rfl⟩ := parse_eq_ok_iff_mapM.1 h'
  refine parse_eq_ok_iff_mapM.2 ⟨pairs ++ pairs', ?_, ?_⟩
  · rw [Form.splitPairs_append, List.mapM_append, hpairs, hpairs']
    rfl
  · rw [ofPairs_eq_iff]
    intro key
    rw [values_merge_append, MultiMap.values_ofPairs, MultiMap.values_ofPairs]
    exact (MultiMap.valuesIn_append pairs pairs' key).symm

/-- Every text has one list of written pairs.  It can be read if every percent sign has its digits
and every key and value stands for a text; the digits are there in the whole text exactly if they
are there in each key and value.  Its query then has the keys of the pairs, each with its values in
their order.  Otherwise the first key or value that stands for no text is reported, with the whole
text.  Texts joined by `&` are read as their queries one behind the other. -/
theorem read_exactly (raw : String) :
    ∃ written, (∀ pairs, Form.HasPairs raw pairs ↔ pairs = written) ∧
      ((∃ q, parse raw = .ok q) ↔
        EscapesComplete raw.toList ∧
          ∀ component ∈ components written, ∃ text, StandsFor component text) ∧
      (EscapesComplete raw.toList ↔
        ∀ component ∈ components written, ∃ bytes, Form.Reads component bytes) ∧
      (∀ q, parse raw = .ok q ↔
        ∃ pairs, List.Forall₂ PairStandsFor written pairs ∧
          (∀ key, key ∈ q.keys ↔ key ∈ pairs.map (·.1)) ∧
          ∀ key, q.values key = (pairs.filter (·.1 = key)).map (·.2)) ∧
      (∀ e, parse raw = .error e ↔
        ∃ before component after fault, components written = before ++ component :: after ∧
          (∀ earlier ∈ before, ∃ text, StandsFor earlier text) ∧ Faulty component fault ∧
          e = .malformedQuery raw fault) ∧
      ∀ other q q', parse raw = .ok q → parse other = .ok q' →
        parse (raw ++ "&" ++ other) = .ok (q.merge .append q') := by
  have hpairs : Form.HasPairs raw (Form.splitPairs raw) := Form.hasPairs_iff.2 rfl
  have hescapes : EscapesComplete raw.toList ↔
      ∀ component ∈ components (Form.splitPairs raw), ∃ bytes, Form.Reads component bytes := by
    simp only [escapesComplete_iff hpairs, Form.reads_iff, exists_and_left, exists_eq', and_true]
  refine ⟨Form.splitPairs raw, ?_, ?_, hescapes, ?_, ?_, ?_⟩
  · intro pairs
    exact Form.hasPairs_iff.trans eq_comm
  · rw [exists_parse_iff hpairs]
    -- what stands for a text has been read, so its escapes are complete
    refine (and_iff_right_of_imp ?_).symm
    intro htexts
    refine hescapes.2 fun component hcomponent => ?_
    obtain ⟨text, htext⟩ := htexts component hcomponent
    exact ⟨_, htext⟩
  · intro q
    rw [parse_eq_ok_iff hpairs]
    constructor
    · rintro ⟨pairs, htexts, hvalues⟩
      refine ⟨pairs, htexts, ?_, hvalues⟩
      intro key
      rw [MultiMap.mem_keys_iff, hvalues key, MultiMap.valuesIn_ne_nil_iff]
    · rintro ⟨pairs, htexts, -, hvalues⟩
      exact ⟨pairs, htexts, hvalues⟩
  · intro e
    exact parse_eq_error_iff hpairs
  · intro other q q' h h'
    exact parse_append h h'

/-- Escapes, plus signs, an empty pair and a bare key, in two texts and in both together. -/
theorem read_exactly_tags :
    parse "tag=a%2Bb" = .ok (.ofPairs [("tag", "a+b")]) ∧
      parse "&%74ag=c+d&x" = .ok (.ofPairs [("tag", "c d"), ("x", "")]) ∧
      parse "tag=a%2Bb&&%74ag=c+d&x" =
        .ok (Query.merge .append (.ofPairs [("tag", "a+b")])
          (.ofPairs [("tag", "c d"), ("x", "")])) := by
  have hfirst : parse "tag=a%2Bb" = .ok (.ofPairs [("tag", "a+b")]) := by
    decide +kernel
  have hsecond : parse "&%74ag=c+d&x" = .ok (.ofPairs [("tag", "c d"), ("x", "")]) := by
    decide +kernel
  obtain ⟨-, -, -, -, -, -, hjoined⟩ := read_exactly "tag=a%2Bb"
  exact ⟨hfirst, hsecond, hjoined _ _ _ hfirst hsecond⟩

end Query

end RestTemplates
