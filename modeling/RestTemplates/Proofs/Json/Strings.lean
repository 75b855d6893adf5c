import RestTemplates.Json.Reader
import RestTemplates.Proofs.Text.Utf8

/-!
# JSON strings — written texts are read back

A character is written as it is, or as a backslash with a letter, or as one with four digits.  None
of the bytes of a character that is written as it is can be taken for the end of the string or for
the start of an escape, because in a sequence of several bytes each has its highest bit set.  So
reading goes character by character, whatever has been read before and whatever follows.

This module defines `Json.Escaped`, the written forms of a character, and proves:

* `Json.escaped_escape`, writing gives one of these forms,
* `JsonRead.stringBytes_of_escaped`, each of them is read as the bytes of its character,
* `JsonRead.stringBody_stringChars`, a written text is read back.
-/

namespace RestTemplates

/-! ## Writing -/

namespace Json

/-- The bytes of some characters. -/
def bytesOf (cs : List Char) : Bytes := cs.flatMap String.utf8EncodeChar

theorem bytesOf_cons (c : Char) (cs : List Char) :
    bytesOf (c :: cs) = String.utf8EncodeChar c ++ bytesOf cs :=
  List.flatMap_cons

theorem bytesOf_append (cs ds : List Char) : bytesOf (cs ++ ds) = bytesOf cs ++ bytesOf ds :=
  List.flatMap_append

theorem encode_eq_bytesOf (json : Json) : json.encode = bytesOf json.chars := by
  rw [encode, text, Utf8.encode, String.toList_ofList, bytesOf]

theorem bytesOf_of_ascii {cs : List Char} (h : ∀ c ∈ cs, c.toNat < 0x80) :
    bytesOf cs = Utf8.asciiBytes cs := by
  rw [← Utf8.encode_ofList_of_ascii h, Utf8.encode, String.toList_ofList, bytesOf]

/-- What may be written for a character. -/
inductive Escaped (c : Char) : List Char → Prop
  | letter {letter : Char} {byte : UInt8} (ascii : letter.toNat < 0x80)
      (stands : JsonRead.shortEscape? (UInt8.ofNat letter.toNat) = some byte)
      (single : String.utf8EncodeChar c = [byte]) : Escaped c ['\\', letter]
  | digits (control : c.toNat < 0x20) :
      Escaped c ['\\', 'u', '0', '0', hexDigit (c.toNat / 16), hexDigit (c.toNat % 16)]
  | plain (visible : 0x20 ≤ c.toNat) (unquoted : c ≠ '"') (unescaped : c ≠ '\\') : Escaped c [c]

theorem escaped_escape (c : Char) : Escaped c (escape c) := by
  rw [escape]
  split_ifs with hquote hbackslash hb hf hn hr ht hcontrol
  · subst hquote
    exact .letter (by decide) rfl rfl
  · subst hbackslash
    exact .letter (by decide) rfl rfl
  · subst hb
    exact .letter (by decide) rfl rfl
  · subst hf
    exact .letter (by decide) rfl rfl
  · subst hn
    exact .letter (by decide) rfl rfl
  · subst hr
    exact .letter (by decide) rfl rfl
  · subst ht
    exact .letter (by decide) rfl rfl
  · exact .digits hcontrol
  · exact .plain (Nat.le_of_not_lt hcontrol) hquote hbackslash

end Json

/-! ## Reading -/

namespace JsonRead

open Json (bytesOf escape hexDigit Escaped)

/-! ### One byte or one escape -/

theorem stringBytes_quote (read rest : Bytes) :
    stringBytes read (Ascii.quote :: rest) = .ok (read.reverse, rest) := by
  rw [stringBytes, if_pos rfl]

theorem stringBytes_backslash (read : Bytes) {input bytes rest : Bytes}
    (h : escapeBytes input = .ok (bytes, rest)) :
    stringBytes read (Ascii.backslash :: input) = stringBytes (bytes.reverse ++ read) rest := by
  rw [stringBytes, if_neg (by decide), if_pos rfl]
  split
  · next bytes' rest' hread =>
    cases h.symm.trans hread
    rfl
  · next e hread => cases h.symm.trans hread

/-- A byte that neither ends a string nor begins an escape, and is no control. -/
def IsPlain (byte : UInt8) : Prop := byte ≠ Ascii.quote ∧ byte ≠ Ascii.backslash ∧ 0x20 ≤ byte

theorem stringBytes_of_isPlain {bytes : Bytes} (h : ∀ byte ∈ bytes, IsPlain byte)
    (read rest : Bytes) :
    stringBytes read (bytes ++ rest) = stringBytes (bytes.reverse ++ read) rest := by
  induction bytes generalizing read with
  | nil => rfl
  | cons byte bytes ih =>
      obtain ⟨hquote, hbackslash, hvisible⟩ := h byte List.mem_cons_self
      have hcontrol : ¬ byte < 0x20 := UInt8.not_lt.2 hvisible
      rw [List.cons_append, stringBytes, if_neg hquote, if_neg hbackslash, if_neg hcontrol,
        ih (fun other hother => h other (List.mem_cons_of_mem _ hother)), List.reverse_cons,
        List.append_assoc]
      rfl

/-! ### Digits -/

theorem hexValue?_hexDigit :
    ∀ n < 16, Percent.hexValue? (UInt8.ofNat (hexDigit n).toNat) = some (UInt8.ofNat n) := by
  decide

theorem toNat_hexDigit_lt : ∀ n < 16, (hexDigit n).toNat < 0x80 := by
  decide

/-- Two zeros and two digits are the number of the two. -/
theorem hexNumber_digits {n : Nat} (h : n < 256) (rest : Bytes) :
    hexNumber (0x30 :: 0x30 :: UInt8.ofNat (hexDigit (n / 16)).toNat ::
      UInt8.ofNat (hexDigit (n % 16)).toNat :: rest) = .ok (n, rest) := by
  have hzero : Percent.hexValue? 0x30 = some 0 := rfl
  have hhigh := hexValue?_hexDigit (n / 16) (by omega)
  have hlow := hexValue?_hexDigit (n % 16) (by omega)
  have hnumber : n / 16 % 256 * 16 + n % 16 % 256 = n := by
    omega
  simp [hexNumber, hzero, hhigh, hlow, hnumber]

theorem unicodeEscape_digits {n : Nat} (h : n < 0x20) (rest : Bytes) :
    unicodeEscape (0x30 :: 0x30 :: UInt8.ofNat (hexDigit (n / 16)).toNat ::
      UInt8.ofNat (hexDigit (n % 16)).toNat :: rest) = .ok (Char.ofNat n, rest) := by
  have hlow : ¬ (0xDC00 ≤ n ∧ n ≤ 0xDFFF) := by
    omega
  have hhigh : ¬ (0xD800 ≤ n ∧ n ≤ 0xDBFF) := by
    omega
  rw [unicodeEscape, hexNumber_digits (by omega)]
  simp [bind, Except.bind, hlow, hhigh]

/-! ### One character -/

theorem escapeBytes_of_shortEscape? {letter byte : UInt8} (h : shortEscape? letter = some byte)
    (rest : Bytes) : escapeBytes (letter :: rest) = .ok ([byte], rest) := by
  have hletter : letter ≠ Ascii.u := by
    rintro rfl
    cases h
  rw [escapeBytes.eq_3 letter rest hletter, h]

theorem escapeBytes_digits {c : Char} (h : c.toNat < 0x20) (rest : Bytes) :
    escapeBytes (bytesOf ['u', '0', '0', hexDigit (c.toNat / 16), hexDigit (c.toNat % 16)] ++ rest)
      = .ok (String.utf8EncodeChar c, rest) := by
  have hascii : ∀ d ∈ ['u', '0', '0', hexDigit (c.toNat / 16), hexDigit (c.toNat % 16)],
      d.toNat < 0x80 := by
    have hhigh := toNat_hexDigit_lt (c.toNat / 16) (by omega)
    have hlow := toNat_hexDigit_lt (c.toNat % 16) (by omega)
    simp [hhigh, hlow]
  have hread := unicodeEscape_digits h rest
  rw [Char.ofNat_toNat] at hread
  rw [Json.bytesOf_of_ascii hascii]
  exact congrArg (Except.map fun read => (String.utf8EncodeChar read.1, read.2)) hread

theorem isPlain_of_mem_utf8EncodeChar {c : Char} (visible : 0x20 ≤ c.toNat) (unquoted : c ≠ '"')
    (unescaped : c ≠ '\\') {byte : UInt8} (h : byte ∈ String.utf8EncodeChar c) :
    IsPlain byte := by
  by_cases hbyte : byte.toNat < 0x80
  · -- the byte is the character itself
    have hc : c = Char.ofNat byte.toNat := Utf8.eq_ofNat_of_mem_utf8EncodeChar hbyte h
    have hnumber : c.toNat = byte.toNat := by
      rw [hc, Utf8.toNat_ofNat_of_ascii _ hbyte]
    refine ⟨?_, ?_, ?_⟩
    · rintro rfl
      exact unquoted hc
    · rintro rfl
      exact unescaped hc
    · exact UInt8.le_iff_toNat_le.2 (hnumber ▸ visible)
  · refine ⟨?_, ?_, ?_⟩
    · rintro rfl
      exact hbyte (by decide)
    · rintro rfl
      exact hbyte (by decide)
    · exact UInt8.le_iff_toNat_le.2 (Nat.le_trans (by decide) (Nat.le_of_not_lt hbyte))

theorem stringBytes_of_escaped {c : Char} {written : List Char} (h : Escaped c written)
    (read rest : Bytes) :
    stringBytes read (bytesOf written ++ rest) =
      stringBytes ((String.utf8EncodeChar c).reverse ++ read) rest := by
  cases h with
  | @letter letter byte ascii stands single =>
      have hwritten : bytesOf ['\\', letter] = [Ascii.backslash, UInt8.ofNat letter.toNat] :=
        Json.bytesOf_of_ascii (by simpa using ascii)
      rw [hwritten, single]
      exact stringBytes_backslash read (escapeBytes_of_shortEscape? stands rest)
  | digits control =>
      rw [Json.bytesOf_cons, List.append_assoc]
      exact stringBytes_backslash read (escapeBytes_digits control rest)
  | plain visible unquoted unescaped =>
      have hwritten : bytesOf [c] = String.utf8EncodeChar c := List.flatMap_singleton _ c
      rw [hwritten]
      exact stringBytes_of_isPlain
        (fun byte => isPlain_of_mem_utf8EncodeChar visible unquoted unescaped) read rest

/-! ### Texts -/

theorem stringBytes_of_escapes (cs : List Char) (read rest : Bytes) :
    stringBytes read (bytesOf (cs.flatMap escape) ++ Ascii.quote :: rest) =
      .ok (read.reverse ++ bytesOf cs, rest) := by
  induction cs generalizing read with
  | nil => rw [List.flatMap_nil, bytesOf, List.flatMap_nil, List.nil_append, List.append_nil,
      stringBytes_quote]
  | cons c cs ih =>
      rw [List.flatMap_cons, Json.bytesOf_append, List.append_assoc,
        stringBytes_of_escaped (Json.escaped_escape c), ih, List.reverse_append,
        List.reverse_reverse, List.append_assoc, Json.bytesOf_cons]

/-- A text between quotes is read back, whatever follows. -/
theorem stringBody_stringChars (text : String) :
    ∃ body, bytesOf (Json.stringChars text) = Ascii.quote :: body ∧
      ∀ rest, stringBody (body ++ rest) = .ok (text, rest) := by
  refine ⟨bytesOf (text.toList.flatMap escape) ++ [Ascii.quote], ?_, ?_⟩
  · rw [Json.stringChars, List.cons_append, Json.bytesOf_cons, Json.bytesOf_append]
    rfl
  · intro rest
    have hbytes : stringBytes [] (bytesOf (text.toList.flatMap escape) ++ [Ascii.quote] ++ rest)
        = .ok (Utf8.encode text, rest) := by
      rw [List.append_assoc]
      exact stringBytes_of_escapes text.toList [] rest
    rw [stringBody, hbytes]
    simp [bind, Except.bind, Utf8.decode?_encode]

end JsonRead

end RestTemplates
