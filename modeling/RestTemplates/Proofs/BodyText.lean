import RestTemplates.Diagnostics.BodyText
import RestTemplates.Proofs.Text.Strict

/-!
# Body text — which bodies an error shows as text

Of a body of text, the bytes up to the limit are read strictly.  They are shown if they are a text
themselves, and dots tell that the body goes on.  The limit counts bytes and does not look at the
characters, so that it can fall within one; the rest of this character is then missing, and the body
is called no UTF-8 although it is.

This file defines:

* `IsTextual`, the headers of a body of text,
* `Previews`, what should be shown of a text, and `CutFits`, the texts that the limit does not cut
  within a character.

It proves:

* `describe_of_encode` and `describe_of_not_encode`, what is shown of any body of text,
* `describe_of_not_cutFits` and `previews_describe_iff`, what is shown of a text,
* `described_exactly`, all of this together.
-/

namespace RestTemplates

namespace BodyText

/-! ## Headers -/

/-- There is no content type that can be read, or it is one of text or JSON. -/
def IsTextual (headers : Headers) : Prop :=
  ∀ type ∈ headers.text? HeaderName.contentType,
    type = "" ∨ "text/".toList <+: type.toList ∨ "application/json".toList <+: type.toList

theorem isTextual_contentType_iff {headers : Headers} :
    isTextual (contentType headers) = true ↔ IsTextual headers := by
  rw [contentType, IsTextual]
  cases headers.text? HeaderName.contentType with
  | none => simp [isTextual]
  | some type => simp [isTextual, or_assoc]

/-! ## Bodies -/

/-- What stands for a body of text that cannot be read. -/
def undecodable (total : Nat) : String := "<non-utf8-text; " ++ toString total ++ " bytes>"

variable {headers : Headers} {body : Bytes} {front : String}

theorem describe_of_encode (htextual : IsTextual headers)
    (hfront : Utf8.encode front = body.take limit) (fullLength : Option Nat) :
    describe headers body fullLength =
      front ++ dots (fullLength.getD body.length > min limit body.length) := by
  rw [describe, if_pos (isTextual_contentType_iff.2 htextual), ← hfront, Utf8.decode?_encode,
    hfront, List.length_take]

theorem describe_of_not_encode (htextual : IsTextual headers)
    (hnone : ∀ front, Utf8.encode front ≠ body.take limit) (fullLength : Option Nat) :
    describe headers body fullLength = undecodable (fullLength.getD body.length) := by
  have hdecode : Utf8.decode? (body.take limit) = none := by
    rw [Option.eq_none_iff_forall_ne_some]
    intro front hfront
    exact hnone front (Utf8.decode?_eq_some_iff.1 hfront)
  rw [describe, if_pos (isTextual_contentType_iff.2 htextual), hdecode]
  rfl

/-! ## Texts -/

/-- All of a text is shown, or as many of its characters as fit, followed by dots. -/
structure Previews (text shown : String) : Prop where
  whole : text.utf8ByteSize ≤ limit → shown = text
  cut :
    limit < text.utf8ByteSize →
      ∃ front back, text = front ++ back ∧ limit - 3 ≤ front.utf8ByteSize ∧
        front.utf8ByteSize ≤ limit ∧ shown = front ++ "..."

/-- The limit does not fall within a character. -/
def CutFits (text : String) : Prop :=
  text.utf8ByteSize ≤ limit ∨ ∃ front back, text = front ++ back ∧ front.utf8ByteSize = limit

/-- A character that stands across the limit. -/
theorem not_cutFits {front back : String} {c : Char} (hlow : front.utf8ByteSize < limit)
    (hhigh : limit < front.utf8ByteSize + c.utf8Size) :
    ¬ CutFits (front ++ String.singleton c ++ back) := by
  rintro (hshort | ⟨cut, rest, happend, hcut⟩)
  · rw [String.utf8ByteSize_append, String.utf8ByteSize_append, String.utf8ByteSize_singleton]
      at hshort
    omega
  · -- a cut before the character is too short, and one behind it too long
    have hchars : front.toList ++ c :: back.toList = cut.toList ++ rest.toList := by
      rw [← String.toList_append, ← happend]
      simp
    rcases List.append_eq_append_iff.1 hchars with ⟨more, hmore, hrest⟩ | ⟨more, hmore, -⟩
    · cases more with
      | nil =>
          rw [List.append_nil, String.toList_inj] at hmore
          rw [hmore] at hcut
          omega
      | cons d more =>
          rw [List.cons_append, List.cons.injEq] at hrest
          have hlonger : cut = front ++ String.singleton c ++ String.ofList more := by
            rw [← String.toList_inj, hmore, ← hrest.1]
            simp
          rw [hlonger, String.utf8ByteSize_append, String.utf8ByteSize_append,
            String.utf8ByteSize_singleton] at hcut
          omega
    · have hshorter : front = cut ++ String.ofList more := by
        rw [← String.toList_inj, hmore, String.toList_append, String.toList_ofList]
      rw [hshorter, String.utf8ByteSize_append] at hlow
      omega

theorem describe_of_le (htextual : IsTextual headers) {text : String}
    (h : text.utf8ByteSize ≤ limit) : describe headers (Utf8.encode text) none = text := by
  have hlength : (Utf8.encode text).length ≤ limit := by rwa [Utf8.length_encode]
  have hall : Utf8.encode text = (Utf8.encode text).take limit :=
    (List.take_of_length_le hlength).symm
  have hdots : ¬ (Utf8.encode text).length > min limit (Utf8.encode text).length := by
    omega
  calc describe headers (Utf8.encode text) none
      = text ++ dots ((Utf8.encode text).length > min limit (Utf8.encode text).length) :=
        describe_of_encode htextual hall none
    _ = text ++ "" := by
        rw [decide_eq_false hdots]
        rfl
    _ = text := String.append_empty

/-- The bytes up to the limit are those of the front alone. -/
theorem describe_of_append (htextual : IsTextual headers) {front back : String}
    (hfront : front.utf8ByteSize = limit) (hback : back ≠ "") :
    describe headers (Utf8.encode (front ++ back)) none = front ++ "..." := by
  have hlength : (Utf8.encode front).length = limit := by rw [Utf8.length_encode, hfront]
  have htake : Utf8.encode front = (Utf8.encode (front ++ back)).take limit := by
    rw [Utf8.encode_append, List.take_left' hlength]
  have hpos : 0 < (Utf8.encode back).length := by
    rw [Utf8.length_encode]
    exact Nat.pos_of_ne_zero fun hzero => hback (String.utf8ByteSize_eq_zero_iff.1 hzero)
  have hdots : (Utf8.encode (front ++ back)).length >
      min limit (Utf8.encode (front ++ back)).length := by
    rw [Utf8.encode_append, List.length_append]
    omega
  calc describe headers (Utf8.encode (front ++ back)) none
      = front ++ dots ((Utf8.encode (front ++ back)).length >
          min limit (Utf8.encode (front ++ back)).length) :=
        describe_of_encode htextual htake none
    _ = front ++ "..." := by
        rw [decide_eq_true hdots]
        rfl

/-- A text that is cut within a character is not shown. -/
theorem describe_of_not_cutFits (htextual : IsTextual headers) {text : String}
    (h : ¬ CutFits text) :
    describe headers (Utf8.encode text) none = undecodable text.utf8ByteSize := by
  obtain ⟨hlong, hcut⟩ := not_or.1 h
  have hnone : ∀ front, Utf8.encode front ≠ (Utf8.encode text).take limit := by
    intro front hfront
    -- bytes that are a text on their own are the bytes of a front of the text
    have happend : Utf8.encode text = Utf8.encode front ++ (Utf8.encode text).drop limit := by
      rw [hfront, List.take_append_drop]
    obtain ⟨back, hback⟩ := Utf8.exists_append_of_encode happend
    refine hcut ⟨front, back, hback, ?_⟩
    rw [← Utf8.length_encode front, hfront, List.length_take, Utf8.length_encode]
    omega
  rw [describe_of_not_encode htextual hnone, Option.getD_none, Utf8.length_encode]

theorem getLast?_toList_append {front back : String} {c : Char}
    (h : back.toList.getLast? = some c) : (front ++ back).toList.getLast? = some c := by
  rw [String.toList_append, List.getLast?_append, h]
  rfl

theorem undecodable_ne_dots (total : Nat) (front : String) :
    undecodable total ≠ front ++ "..." := by
  intro h
  have hlast : (undecodable total).toList.getLast? = some '>' :=
    getLast?_toList_append (by decide)
  have hdot : (front ++ "...").toList.getLast? = some '.' :=
    getLast?_toList_append (by decide)
  rw [h, hdot] at hlast
  cases hlast

theorem previews_describe_iff (htextual : IsTextual headers) {text : String} :
    Previews text (describe headers (Utf8.encode text) none) ↔ CutFits text := by
  constructor
  · intro h
    -- what stands for a body that cannot be read does not end with dots
    by_contra hcut
    obtain ⟨front, back, -, -, -, hshown⟩ := h.cut (Nat.lt_of_not_le (not_or.1 hcut).1)
    rw [describe_of_not_cutFits htextual hcut] at hshown
    exact undecodable_ne_dots _ _ hshown
  · rintro (hshort | ⟨front, back, rfl, hfront⟩)
    · exact ⟨fun _ => describe_of_le htextual hshort, fun hlong => absurd hlong (by omega)⟩
    · by_cases hback : back = ""
      · -- the front is the whole text, which just fits
        subst hback
        rw [String.append_empty]
        exact ⟨fun hshort => describe_of_le htextual hshort, fun hlong => absurd hlong (by omega)⟩
      · have hshown := describe_of_append htextual hfront hback
        refine ⟨?_, fun _ => ⟨front, back, rfl, by omega, by omega, hshown⟩⟩
        intro hshort
        have hempty : back.utf8ByteSize = 0 := by
          rw [String.utf8ByteSize_append] at hshort
          omega
        exact absurd (String.utf8ByteSize_eq_zero_iff.1 hempty) hback

/-- A body of text is shown exactly if its bytes up to the limit are a text, with dots if there are
more of them, and described by its length otherwise.  A text is shown as it should be exactly if the
limit does not fall within a character. -/
theorem described_exactly (htextual : IsTextual headers) :
    (∀ body front, Utf8.encode front = body.take limit →
      describe headers body none = if body.length ≤ limit then front else front ++ "...") ∧
    (∀ body, (∀ front, Utf8.encode front ≠ body.take limit) →
      describe headers body none = undecodable body.length) ∧
    (∀ text, Previews text (describe headers (Utf8.encode text) none) ↔ CutFits text) ∧
    (∀ text, ¬ CutFits text →
      describe headers (Utf8.encode text) none = undecodable text.utf8ByteSize) := by
  refine ⟨?_, fun _ hnone => describe_of_not_encode htextual hnone none,
    fun _ => previews_describe_iff htextual, fun _ => describe_of_not_cutFits htextual⟩
  intro body front hfront
  rw [describe_of_encode htextual hfront, Option.getD_none]
  by_cases hlimit : body.length ≤ limit
  · rw [if_pos hlimit, decide_eq_false (by omega)]
    exact String.append_empty
  · rw [if_neg hlimit, decide_eq_true (by omega)]
    rfl

/-! ## Long texts -/

/-- Headers with the type of plain text. -/
def plainHeaders : Headers := (default : Headers).append "content-type" (Utf8.encode "text/plain")

theorem isTextual_plainHeaders : IsTextual plainHeaders :=
  isTextual_contentType_iff.1 (by decide +kernel)

/-- A text of one letter. -/
def letters (n : Nat) : String := String.ofList (List.replicate n 'a')

theorem encode_letters (n : Nat) : Utf8.encode (letters n) = List.replicate n 0x61 := by
  have hascii : ∀ c ∈ List.replicate n 'a', c.toNat < 0x80 := by
    intro c hc
    rw [List.eq_of_mem_replicate hc]
    decide
  rw [letters, Utf8.encode_ofList_of_ascii hascii, Utf8.asciiBytes, List.map_replicate]
  rfl

theorem utf8ByteSize_letters (n : Nat) : (letters n).utf8ByteSize = n := by
  rw [← Utf8.length_encode, encode_letters, List.length_replicate]

/-- Of a text of letters with a longer character behind the limit, the letters are shown. -/
theorem letters_shown :
    IsTextual plainHeaders ∧
      describe plainHeaders (Utf8.encode (letters limit ++ "ü")) none = letters limit ++ "..." := by
  obtain ⟨hshown, -⟩ := described_exactly isTextual_plainHeaders
  have hlength : (Utf8.encode (letters limit)).length = limit := by
    rw [Utf8.length_encode, utf8ByteSize_letters]
  have htake : Utf8.encode (letters limit) = (Utf8.encode (letters limit ++ "ü")).take limit := by
    rw [Utf8.encode_append, List.take_left' hlength]
  have hlong : ¬ (Utf8.encode (letters limit ++ "ü")).length ≤ limit := by
    have htwo : (Utf8.encode "ü").length = 2 := by decide
    rw [Utf8.encode_append, List.length_append, hlength]
    omega
  exact ⟨isTextual_plainHeaders, by rw [hshown _ _ htake, if_neg hlong]⟩

/-- A text whose last character stands across the limit is called no UTF-8. -/
theorem character_across_limit :
    IsTextual plainHeaders ∧
      describe plainHeaders (Utf8.encode (letters 8189 ++ "😀")) none =
        "<non-utf8-text; 8193 bytes>" ∧
      ¬ Previews (letters 8189 ++ "😀")
        (describe plainHeaders (Utf8.encode (letters 8189 ++ "😀")) none) := by
  have hfour : '😀'.utf8Size = 4 := by decide
  have hletters := utf8ByteSize_letters 8189
  have hsize : (letters 8189 ++ "😀").utf8ByteSize = 8193 := by
    rw [String.utf8ByteSize_append, hletters]
    rfl
  have hcut : ¬ CutFits (letters 8189 ++ "😀") := by
    have hacross : ¬ CutFits (letters 8189 ++ String.singleton '😀' ++ "") :=
      not_cutFits (by rw [hletters]; decide) (by rw [hletters, hfour]; decide)
    rwa [String.append_empty] at hacross
  refine ⟨isTextual_plainHeaders, ?_, ?_⟩
  · rw [describe_of_not_cutFits isTextual_plainHeaders hcut, hsize]
    decide
  · rw [previews_describe_iff isTextual_plainHeaders]
    exact hcut

end BodyText

end RestTemplates
