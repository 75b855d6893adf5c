import RestTemplates.Proofs.Base64.Decoding
import RestTemplates.Proofs.BodyText

/-!
# Binary bodies — what an error shows of a body that is no text

Such a body is written in Base64 and cut twice: the bytes at one limit before they are written, and
the characters at another one afterwards.  The second limit is a whole number of groups, and the
first one leaves more bytes than these groups stand for.  So what is shown is written for a front of
the body on its own, and the bytes left out have no influence on it.

This module proves:

* `base64Text_of_le` and `base64Text_of_lt`, what is shown of short and of long bodies,
* `exists_cut_base64`, both cuts fall between characters,
* `binary_shown`, all of this for the text in an error.
-/

namespace RestTemplates

namespace BodyText

variable {headers : Headers} {body : Bytes}

/-- The number of bytes that the characters shown stand for. -/
def base64Bytes : Nat := 768

/-- What stands for a body that is no text. -/
def binaryText (total : Nat) (shown : String) : String :=
  "<non-text; " ++ toString total ++ " bytes; base64:" ++ shown ++ ">"

theorem describe_of_not_isTextual (hbinary : ¬ IsTextual headers) (body : Bytes)
    (fullLength : Option Nat) :
    describe headers body fullLength =
      binaryText (fullLength.getD body.length) (base64Text (body.take limit)) := by
  rw [describe, if_neg fun htextual => hbinary (isTextual_contentType_iff.1 htextual)]
  rfl

/-! ## The cut after writing -/

/-- The bytes up to the limit that is counted in characters fill whole groups. -/
theorem length_encodeChars_take (h : base64Bytes < body.length) :
    (Base64.encodeChars (body.take base64Bytes)).length = base64Limit := by
  have htake : (body.take base64Bytes).length = base64Bytes :=
    List.length_take_of_le (Nat.le_of_lt h)
  rw [Base64.length_encodeChars, htake]
  rfl

theorem base64Text_of_le (h : body.length ≤ base64Bytes) :
    base64Text (body.take limit) = Base64.encode body := by
  have hall : body.take limit = body :=
    List.take_of_length_le (Nat.le_trans h (by decide))
  have hshort : (Base64.encodeChars body).length ≤ base64Limit := by
    rw [Base64.length_encodeChars]
    simp only [base64Bytes, base64Limit] at h ⊢
    omega
  rw [base64Text, hall, List.take_of_length_le hshort, decide_eq_false (Nat.not_lt.2 hshort)]
  exact String.append_empty

theorem base64Text_of_lt (h : base64Bytes < body.length) :
    base64Text (body.take limit) = Base64.encode (body.take base64Bytes) ++ "..." := by
  have hlong : base64Limit < (Base64.encodeChars (body.take limit)).length := by
    rw [Base64.length_encodeChars, List.length_take]
    simp only [base64Bytes, base64Limit, limit] at h ⊢
    omega
  -- the characters that are kept have all their bits in the bytes of the front
  have hfront : (Base64.encodeChars (body.take limit)).take base64Limit =
      Base64.encodeChars (body.take base64Bytes) := by
    have hdecided := Base64.take_encodeChars_take (body.take limit)
      (show 3 * base64Limit ≤ 4 * base64Bytes by decide)
    rw [List.take_take, Nat.min_eq_left (by decide),
      List.take_of_length_le (Nat.le_of_eq (length_encodeChars_take h))] at hdecided
    exact hdecided.symm
  rw [base64Text, hfront, decide_eq_true hlong]
  rfl

/-! ## Positions of the cuts -/

theorem utf8ByteSize_of_ascii {cs : List Char} (h : ∀ c ∈ cs, c.toNat < 0x80) :
    (String.ofList cs).utf8ByteSize = cs.length := by
  rw [← Utf8.length_encode, Utf8.encode_ofList_of_ascii h, Utf8.asciiBytes, List.length_map]

/-- The byte at which the written text is cut begins a character or ends the text. -/
theorem exists_cut_base64 (bytes : Bytes) :
    ∃ front back, Base64.encode bytes = front ++ back ∧
      front.utf8ByteSize = min base64Limit (Base64.encode bytes).utf8ByteSize ∧
      base64Text bytes = front ++ dots (base64Limit < (Base64.encode bytes).utf8ByteSize) := by
  have hsize : (Base64.encode bytes).utf8ByteSize = (Base64.encodeChars bytes).length :=
    utf8ByteSize_of_ascii fun _ => Base64.toNat_lt_of_mem_encodeChars
  refine ⟨String.ofList ((Base64.encodeChars bytes).take base64Limit),
    String.ofList ((Base64.encodeChars bytes).drop base64Limit), ?_, ?_, ?_⟩
  · rw [← String.ofList_append, List.take_append_drop, Base64.encode]
  · rw [utf8ByteSize_of_ascii fun _ hc =>
      Base64.toNat_lt_of_mem_encodeChars (List.mem_of_mem_take hc), List.length_take, hsize]
  · rw [hsize]
    rfl

/-! ## Texts in errors -/

/-- A body of up to 768 bytes is shown in Base64 as a whole, and of a longer one the first 768 bytes
are, followed by dots.  What is shown before the dots is read as just these bytes, so other bytes
behind them change nothing; the length is the given one, or else that of the body.  The written text
is never cut within a character. -/
theorem binary_shown (hbinary : ¬ IsTextual headers) (body : Bytes) (fullLength : Option Nat) :
    let total := fullLength.getD body.length
    (body.length ≤ base64Bytes →
      describe headers body fullLength = binaryText total (Base64.encode body) ∧
      Base64.decode? (Base64.encode body).toList = some body) ∧
    (base64Bytes < body.length →
      let front := Base64.encode (body.take base64Bytes)
      describe headers body fullLength = binaryText total (front ++ "...") ∧
      front.length = base64Limit ∧
      Base64.decode? front.toList = some (body.take base64Bytes) ∧
      ∀ other : Bytes, base64Bytes < other.length →
        other.take base64Bytes = body.take base64Bytes →
        describe headers other (some total) = describe headers body fullLength) ∧
    ∃ front back, Base64.encode (body.take limit) = front ++ back ∧
      front.utf8ByteSize = min base64Limit (Base64.encode (body.take limit)).utf8ByteSize ∧
      describe headers body fullLength = binaryText total
        (front ++ dots (base64Limit < (Base64.encode (body.take limit)).utf8ByteSize)) := by
  intro total
  have hread (bytes : Bytes) : Base64.decode? (Base64.encode bytes).toList = some bytes := by
    rw [Base64.decode?_eq_some_iff, Base64.encode, String.toList_ofList]
  have hdescribe := describe_of_not_isTextual hbinary body fullLength
  refine ⟨?_, ?_, ?_⟩
  · intro hshort
    rw [hdescribe, base64Text_of_le hshort]
    exact ⟨rfl, hread body⟩
  · intro hlong front
    rw [base64Text_of_lt hlong] at hdescribe
    have hlength : front.length = base64Limit := by
      simp only [front, ← String.length_toList, Base64.encode, String.toList_ofList]
      exact length_encodeChars_take hlong
    refine ⟨hdescribe, hlength, hread _, ?_⟩
    intro other hother hsame
    rw [describe_of_not_isTextual hbinary other, base64Text_of_lt hother, hsame, hdescribe]
    rfl
  · obtain ⟨front, back, hcut, hsize, htext⟩ := exists_cut_base64 (body.take limit)
    exact ⟨front, back, hcut, hsize, hdescribe.trans (congrArg (binaryText total) htext)⟩

/-- Headers with the type of mere bytes. -/
def octetHeaders : Headers :=
  (default : Headers).append "content-type" (Utf8.encode "application/octet-stream")

/-- Of a body that the limit of characters cuts by one byte, the groups before it are shown. -/
theorem octets_shown :
    ¬ IsTextual octetHeaders ∧
      describe octetHeaders [0, 1, 2] (some 7) = "<non-text; 7 bytes; base64:AAEC>" ∧
      describe octetHeaders (List.replicate 769 0xFF) none =
        binaryText 769 (Base64.encode (List.replicate 768 0xFF) ++ "...") := by
  have hbinary : ¬ IsTextual octetHeaders :=
    fun htextual => absurd (isTextual_contentType_iff.2 htextual) (by decide +kernel)
  obtain ⟨hshort, -, -⟩ := binary_shown hbinary [0, 1, 2] (some 7)
  obtain ⟨-, hlong, -⟩ := binary_shown hbinary (List.replicate 769 0xFF) none
  have hlength : (List.replicate 769 (0xFF : UInt8)).length = 769 := List.length_replicate
  refine ⟨hbinary, (hshort (by decide)).1.trans (by decide), ?_⟩
  rw [(hlong (by rw [hlength]; decide)).1, Option.getD_none, hlength, List.take_replicate]
  rfl

end BodyText

end RestTemplates
