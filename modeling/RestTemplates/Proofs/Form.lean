import RestTemplates.Form
import RestTemplates.Proofs.Percent
import RestTemplates.Proofs.SplitOn

/-!
# Form round trip — written pairs are read back

Writing and reading meet on two levels.  On bytes, a space is written as a plus sign, and plus signs
become spaces before escapes are resolved; a plus sign of the text itself is written as an escape,
so that step leaves it alone.  On characters, a written key or value has no `&` and no `=`, so both
of them are found only where they separate.

This module proves:

* `decodeBytes_encodeText` and `wellFormed_encodeText`, for one key or value,
* `splitPairs_encode` and `decode_encode`, for a list of pairs,
* `mem_encode`, which characters are written,
* `encode_eq_empty_iff`, only the empty list is written as the empty text.
-/

namespace RestTemplates

namespace Form

open Utf8 (asciiBytes asciiBytes_append)

/-! ## Characters written -/

/-- Kept bytes are ASCII, and they neither separate nor stand for another byte. -/
theorem isKept_bounds : ∀ b, isKept b = true →
    b.toNat < 0x80 ∧ b ≠ 0x25 ∧ b ≠ 0x26 ∧ b ≠ 0x2B ∧ b ≠ 0x3D := by
  refine Percent.forall_byte ?_
  decide +kernel

/-- The characters of a written key or value. -/
def IsWritten (c : Char) : Prop := c.toNat < 0x80 ∧ c ≠ '&' ∧ c ≠ '='

theorem isWritten_hexDigit : ∀ n < 16, IsWritten (Percent.hexDigit n) := by
  unfold IsWritten
  decide

theorem isWritten_of_isKept {b : UInt8} (h : isKept b = true) :
    IsWritten (Char.ofNat b.toNat) := by
  obtain ⟨hlow, -, hamp, -, heq⟩ := isKept_bounds b h
  refine ⟨?_, Utf8.ofNat_toNat_ne hlow hamp, Utf8.ofNat_toNat_ne hlow heq⟩
  rwa [Utf8.toNat_ofNat_of_ascii b.toNat hlow]

/-- A written character is a plus sign, a percent sign, a digit, or a kept byte. -/
theorem mem_encodeByte {b : UInt8} {c : Char} (h : c ∈ encodeByte b) :
    c = '+' ∨ c = '%' ∨ (∃ n < 16, c = Percent.hexDigit n) ∨
      isKept b = true ∧ c = Char.ofNat b.toNat := by
  rw [encodeByte] at h
  split at h
  · exact .inl (List.mem_singleton.1 h)
  · exact .inr (Percent.mem_encodeByte h)

theorem isWritten_of_mem_encodeByte {b : UInt8} {c : Char} (h : c ∈ encodeByte b) :
    IsWritten c := by
  rcases mem_encodeByte h with rfl | rfl | ⟨n, hn, rfl⟩ | ⟨hkeep, rfl⟩
  · unfold IsWritten
    decide
  · unfold IsWritten
    decide
  · exact isWritten_hexDigit n hn
  · exact isWritten_of_isKept hkeep

theorem isWritten_of_mem_encodeText {text : String} {c : Char} (h : c ∈ encodeText text) :
    IsWritten c := by
  rcases List.mem_flatMap.1 h with ⟨b, -, hc⟩
  exact isWritten_of_mem_encodeByte hc

theorem utf8_encodeText (text : String) :
    Utf8.encode (String.ofList (encodeText text)) = asciiBytes (encodeText text) :=
  Utf8.encode_ofList_of_ascii fun _ hc => (isWritten_of_mem_encodeText hc).1

/-! ## One key or value -/

theorem plusToSpace_hexDigit :
    ∀ n < 16, plusToSpace (UInt8.ofNat (Percent.hexDigit n).toNat) =
      UInt8.ofNat (Percent.hexDigit n).toNat := by
  decide

theorem plusToSpace_escape (b : UInt8) :
    (asciiBytes (Percent.escape b)).map plusToSpace = asciiBytes (Percent.escape b) := by
  have hdigits := Percent.digits_lt b
  simp only [asciiBytes, Percent.escape, List.map_cons, List.map_nil,
    plusToSpace_hexDigit _ hdigits.1, plusToSpace_hexDigit _ hdigits.2]
  rfl

theorem decode_encodeByte (b : UInt8) (rest : Bytes) :
    Percent.decode ((asciiBytes (encodeByte b)).map plusToSpace ++ rest) =
      b :: Percent.decode rest := by
  rw [encodeByte]
  split
  · next hspace =>
    have hbytes : (asciiBytes ['+']).map plusToSpace ++ rest = 0x20 :: rest := rfl
    rw [hbytes, Percent.decode_cons_of_ne (by decide), hspace]
  · rw [Percent.encodeByte]
    split
    · next hkeep =>
      -- a kept byte is no plus sign, so it is not taken for a space
      obtain ⟨hlow, hpercent, -, hplus, -⟩ := isKept_bounds b hkeep
      have hbytes : [b].map plusToSpace ++ rest = b :: rest := by
        simp [plusToSpace, hplus]
      rw [Percent.asciiBytes_ofNat hlow, hbytes, Percent.decode_cons_of_ne hpercent]
    · -- an escape has no plus sign in it either
      rw [plusToSpace_escape, Percent.decode_escape]

theorem wellFormed_encodeByte (b : UInt8) (rest : Bytes) :
    Percent.wellFormed (asciiBytes (encodeByte b) ++ rest) = Percent.wellFormed rest := by
  rw [encodeByte]
  split
  · exact Percent.wellFormed_cons_of_ne (by decide) rest
  · rw [Percent.encodeByte]
    split
    · next hkeep =>
      rw [Percent.asciiBytes_ofNat (isKept_bounds b hkeep).1]
      exact Percent.wellFormed_cons_of_ne (isKept_bounds b hkeep).2.1 rest
    · exact Percent.wellFormed_escape b rest

theorem decode_flatMap_encodeByte (bytes : Bytes) :
    Percent.decode ((asciiBytes (bytes.flatMap encodeByte)).map plusToSpace) = bytes := by
  induction bytes with
  | nil => rfl
  | cons b bytes ih =>
      rw [List.flatMap_cons, asciiBytes_append, List.map_append, decode_encodeByte, ih]

theorem wellFormed_flatMap_encodeByte (bytes : Bytes) :
    Percent.wellFormed (asciiBytes (bytes.flatMap encodeByte)) = true := by
  induction bytes with
  | nil => rfl
  | cons b bytes ih =>
      rw [List.flatMap_cons, asciiBytes_append, wellFormed_encodeByte, ih]

theorem decodeBytes_encodeText (text : String) :
    decodeBytes (encodeText text) = Utf8.encode text := by
  rw [decodeBytes, utf8_encodeText]
  exact decode_flatMap_encodeByte _

theorem wellFormed_encodeText (text : String) :
    Percent.wellFormed (Utf8.encode (String.ofList (encodeText text))) = true := by
  rw [utf8_encodeText]
  exact wellFormed_flatMap_encodeByte _

/-! ## Pairs -/

theorem splitPair_encodePair (pair : String × String) :
    splitPair (encodePair pair) = (encodeText pair.1, encodeText pair.2) := by
  have hfree : '=' ∉ encodeText pair.1 := fun h => (isWritten_of_mem_encodeText h).2.2 rfl
  have hcut : CutAt '=' (encodePair pair) (encodeText pair.1) (some (encodeText pair.2)) :=
    ⟨hfree, rfl⟩
  rw [splitPair, hcut.span_eq.1, hcut.drop_one_eq, Option.getD_some]

theorem not_mem_encodePair (pair : String × String) : '&' ∉ encodePair pair := by
  intro h
  rcases List.mem_append.1 h with h | h
  · exact (isWritten_of_mem_encodeText h).2.1 rfl
  · rcases List.mem_cons.1 h with h | h
    · exact absurd h (by decide)
    · exact (isWritten_of_mem_encodeText h).2.1 rfl

theorem encodePair_ne_nil (pair : String × String) : encodePair pair ≠ [] := by
  simp [encodePair]

theorem splitOn_encode {pairs : List (String × String)} (h : pairs ≠ []) :
    (encode pairs).toList.splitOn '&' = pairs.map encodePair := by
  rw [encode, String.toList_ofList]
  refine List.splitOn_intercalate '&' ?_ (by simpa using h)
  intro written hwritten
  rcases List.mem_map.1 hwritten with ⟨pair, -, rfl⟩
  exact not_mem_encodePair pair

/-- A written list of pairs is cut into the written keys and values. -/
theorem splitPairs_encode (pairs : List (String × String)) :
    splitPairs (encode pairs) =
      pairs.map fun pair => (encodeText pair.1, encodeText pair.2) := by
  by_cases hpairs : pairs = []
  · -- the empty text has one empty piece, which is skipped
    rw [hpairs]
    rfl
  · have hkept : (pairs.map encodePair).filter (· ≠ []) = pairs.map encodePair := by
      refine List.filter_eq_self.2 ?_
      intro written hwritten
      rcases List.mem_map.1 hwritten with ⟨pair, -, rfl⟩
      exact decide_eq_true (encodePair_ne_nil pair)
    rw [splitPairs, splitOn_encode hpairs, hkept, List.map_map]
    exact List.map_congr_left fun pair _ => splitPair_encodePair pair

/-- A list of pairs is read back by the lenient reader too. -/
theorem decode_encode (pairs : List (String × String)) : decode (encode pairs) = pairs := by
  rw [decode, splitPairs_encode, List.map_map]
  refine (List.map_congr_left ?_).trans (List.map_id pairs)
  intro pair _
  simp [decodeBytes_encodeText, Utf8.decodeLossy_encode]

/-- Beside the written bytes there are only the two separators. -/
theorem mem_encode {pairs : List (String × String)} {c : Char} (h : c ∈ (encode pairs).toList) :
    c = '&' ∨ c = '=' ∨ ∃ b, c ∈ encodeByte b := by
  rw [encode, String.toList_ofList] at h
  rcases mem_of_mem_intercalate h with hamp | ⟨written, hwritten, hc⟩
  · exact .inl hamp
  · rcases List.mem_map.1 hwritten with ⟨pair, -, rfl⟩
    rcases List.mem_append.1 hc with hkey | hvalue
    · rcases List.mem_flatMap.1 hkey with ⟨b, -, hb⟩
      exact .inr (.inr ⟨b, hb⟩)
    · rcases List.mem_cons.1 hvalue with heq | hvalue
      · exact .inr (.inl heq)
      · rcases List.mem_flatMap.1 hvalue with ⟨b, -, hb⟩
        exact .inr (.inr ⟨b, hb⟩)

theorem encode_eq_empty_iff {pairs : List (String × String)} : encode pairs = "" ↔ pairs = [] := by
  constructor
  · intro h
    have hpairs := splitPairs_encode pairs
    rw [h] at hpairs
    exact List.map_eq_nil_iff.1 hpairs.symm
  · intro h
    rw [h]
    rfl

end Form

end RestTemplates
