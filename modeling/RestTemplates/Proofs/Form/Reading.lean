import RestTemplates.Proofs.Form
import RestTemplates.Proofs.Text.Strict

/-!
# Form reading — what a written key or value stands for

A written key or value is read character by character: a plus sign is a space, a percent sign with
two hexadecimal digits is the byte that they spell, and any other character is itself, in its UTF-8
form.  Percent-decoding works on bytes and leaves a percent sign alone that has no digits behind it,
so both agree exactly where every percent sign has its digits.

This file defines:

* `Percent.IsDigitOf` and `Percent.EscapesComplete`, escapes as characters,
* `Form.Reads`, the bytes that a written key or value stands for.

It proves:

* `Percent.wellFormed_encode_iff`, the check on bytes is the one on characters,
* `Form.reads_iff`, reading and decoding agree,
* `Percent.escapesComplete_append_cons` and `Percent.escapesComplete_intercalate`, an escape does
  not reach across a separator.
-/

namespace RestTemplates

/-! ## Bytes of characters -/

namespace Utf8

theorem encode_ofList_cons (c : Char) (cs : List Char) :
    encode (String.ofList (c :: cs)) = String.utf8EncodeChar c ++ encode (String.ofList cs) := by
  rw [encode, encode, String.toList_ofList, String.toList_ofList, List.flatMap_cons]

theorem utf8EncodeChar_of_ascii {c : Char} (h : c.toNat < 0x80) :
    String.utf8EncodeChar c = [UInt8.ofNat c.toNat] := by
  have hbytes := encode_ofList_of_ascii (List.forall_mem_singleton.2 h)
  rw [encode_ofList_cons] at hbytes
  simpa [encode, asciiBytes] using hbytes

theorem utf8EncodeChar_ne_nil (c : Char) : String.utf8EncodeChar c ≠ [] := by
  intro h
  have hlength := String.length_utf8EncodeChar c
  rw [h] at hlength
  exact absurd hlength.symm (Nat.ne_of_gt (Char.utf8Size_pos c))

/-- A byte below 128 is found only where its own character stands. -/
theorem not_mem_utf8EncodeChar {b : UInt8} {c : Char} (hb : b.toNat < 0x80)
    (hc : c ≠ Char.ofNat b.toNat) : b ∉ String.utf8EncodeChar c :=
  fun hmem => hc (eq_ofNat_of_mem_utf8EncodeChar hb hmem)

end Utf8

namespace Percent

open Utf8 (encode_ofList_cons utf8EncodeChar_of_ascii)

/-! ## Digits -/

/-- A character is the hexadecimal digit of a number, in capital or small letters. -/
def IsDigitOf (c : Char) (n : Nat) : Prop := n < 16 ∧ (c = hexDigit n ∨ c = (hexDigit n).toLower)

theorem isDigitOf_spec {c : Char} {n : Nat} (h : IsDigitOf c n) :
    c.toNat < 0x80 ∧ hexValue? (UInt8.ofNat c.toNat) = some (UInt8.ofNat n) ∧
      c ∉ ['%', '+', '&', '='] := by
  have hcapital : ∀ n < 16, (hexDigit n).toNat < 0x80 ∧
      hexValue? (UInt8.ofNat (hexDigit n).toNat) = some (UInt8.ofNat n) ∧
      hexDigit n ∉ ['%', '+', '&', '='] := by
    decide
  have hsmall : ∀ n < 16, (hexDigit n).toLower.toNat < 0x80 ∧
      hexValue? (UInt8.ofNat (hexDigit n).toLower.toNat) = some (UInt8.ofNat n) ∧
      (hexDigit n).toLower ∉ ['%', '+', '&', '='] := by
    decide
  obtain ⟨hn, rfl | rfl⟩ := h
  · exact hcapital n hn
  · exact hsmall n hn

theorem isDigitOf_of_isHex {b : UInt8} (h : isHex b = true) :
    b.toNat < 0x80 ∧ ∃ n, IsDigitOf (Char.ofNat b.toNat) n := by
  have hall : ∀ b, isHex b = true → b.toNat < 0x80 ∧ ∃ n < 16,
      Char.ofNat b.toNat = hexDigit n ∨ Char.ofNat b.toNat = (hexDigit n).toLower := by
    refine forall_byte ?_
    decide +kernel
  exact hall b h

/-- The two digits of an escape stand at the front. -/
def BeginsWithDigits (cs : List Char) : Prop :=
  ∃ high low rest h l, cs = high :: low :: rest ∧ IsDigitOf high h ∧ IsDigitOf low l

/-- Behind every percent sign stand the two digits of an escape. -/
def EscapesComplete (cs : List Char) : Prop := ∀ rest, '%' :: rest <:+ cs → BeginsWithDigits rest

theorem escapesComplete_nil : EscapesComplete [] := by
  intro rest h
  cases List.suffix_nil.1 h

theorem escapesComplete_cons {c : Char} {cs : List Char} :
    EscapesComplete (c :: cs) ↔ (c = '%' → BeginsWithDigits cs) ∧ EscapesComplete cs := by
  constructor
  · intro h
    refine ⟨?_, fun rest hrest => h rest (hrest.trans (List.suffix_cons c cs))⟩
    rintro rfl
    exact h cs (List.suffix_refl _)
  · rintro ⟨hhead, htail⟩ rest hrest
    rcases List.suffix_cons_iff.1 hrest with heq | hrest
    · cases heq
      exact hhead rfl
    · exact htail rest hrest

theorem escapesComplete_cons_of_ne {c : Char} {cs : List Char} (h : c ≠ '%') :
    EscapesComplete (c :: cs) ↔ EscapesComplete cs :=
  escapesComplete_cons.trans (and_iff_right fun heq => absurd heq h)

theorem escapesComplete_digit_cons {c : Char} {n : Nat} (h : IsDigitOf c n) {cs : List Char} :
    EscapesComplete (c :: cs) ↔ EscapesComplete cs := by
  refine escapesComplete_cons_of_ne ?_
  rintro rfl
  exact (isDigitOf_spec h).2.2 List.mem_cons_self

/-! ## The check on bytes -/

/-- A percent sign has its digits if two hexadecimal bytes follow. -/
theorem wellFormed_percent_iff {bytes : Bytes} :
    wellFormed (0x25 :: bytes) = true ↔
      ∃ high low rest, bytes = high :: low :: rest ∧ isHex high = true ∧ isHex low = true ∧
        wellFormed rest = true := by
  match bytes with
  | [] => simp [wellFormed]
  | [high] => simp [wellFormed]
  | high :: low :: rest => simp [wellFormed, and_assoc]

theorem isHex_of_isDigitOf {c : Char} {n : Nat} (h : IsDigitOf c n) :
    isHex (UInt8.ofNat c.toNat) = true := by
  rw [isHex, (isDigitOf_spec h).2.1]
  rfl

theorem encode_digit_cons {c : Char} {n : Nat} (h : IsDigitOf c n) (cs : List Char) :
    Utf8.encode (String.ofList (c :: cs)) =
      UInt8.ofNat c.toNat :: Utf8.encode (String.ofList cs) := by
  rw [encode_ofList_cons, utf8EncodeChar_of_ascii (isDigitOf_spec h).1, List.singleton_append]

theorem wellFormed_digit_cons {c : Char} {n : Nat} (h : IsDigitOf c n) (cs : List Char) :
    wellFormed (Utf8.encode (String.ofList (c :: cs))) =
      wellFormed (Utf8.encode (String.ofList cs)) := by
  have hne : UInt8.ofNat c.toNat ≠ 0x25 := by
    intro heq
    have hhex := isHex_of_isDigitOf h
    rw [heq] at hhex
    cases hhex
  rw [encode_digit_cons h, wellFormed_cons_of_ne hne]

/-- A hexadecimal byte at the front is a digit of its own. -/
theorem exists_digit_of_encode {cs : List Char} {b : UInt8} {bytes : Bytes}
    (h : Utf8.encode (String.ofList cs) = b :: bytes) (hhex : isHex b = true) :
    ∃ c rest n, cs = c :: rest ∧ IsDigitOf c n ∧ Utf8.encode (String.ofList rest) = bytes := by
  obtain ⟨hlow, n, hdigit⟩ := isDigitOf_of_isHex hhex
  cases cs with
  | nil => cases h
  | cons c rest =>
      rw [encode_ofList_cons] at h
      -- the byte is the first one of the character, and so it is all of it
      have hmem : b ∈ String.utf8EncodeChar c := by
        cases hchar : String.utf8EncodeChar c with
        | nil => exact absurd hchar (Utf8.utf8EncodeChar_ne_nil c)
        | cons first more =>
            rw [hchar, List.cons_append, List.cons.injEq] at h
            exact h.1 ▸ List.mem_cons_self
      have hc := Utf8.eq_ofNat_of_mem_utf8EncodeChar hlow hmem
      have hascii : c.toNat < 0x80 := (isDigitOf_spec (hc ▸ hdigit)).1
      rw [utf8EncodeChar_of_ascii hascii, List.singleton_append, List.cons.injEq] at h
      exact ⟨c, rest, n, rfl, hc ▸ hdigit, h.2⟩

theorem wellFormed_percent_encode_iff {cs : List Char} :
    wellFormed (0x25 :: Utf8.encode (String.ofList cs)) = true ↔
      BeginsWithDigits cs ∧ wellFormed (Utf8.encode (String.ofList cs)) = true := by
  rw [wellFormed_percent_iff]
  constructor
  · rintro ⟨high, low, rest, hbytes, hhigh, hlow, hrest⟩
    obtain ⟨c, cs, h, rfl, hc, hmore⟩ := exists_digit_of_encode hbytes hhigh
    obtain ⟨d, ds, l, rfl, hd, hlast⟩ := exists_digit_of_encode hmore hlow
    refine ⟨⟨c, d, ds, h, l, rfl, hc, hd⟩, ?_⟩
    rw [wellFormed_digit_cons hc, wellFormed_digit_cons hd, hlast]
    exact hrest
  · rintro ⟨⟨c, d, ds, h, l, rfl, hc, hd⟩, hrest⟩
    rw [wellFormed_digit_cons hc, wellFormed_digit_cons hd] at hrest
    rw [encode_digit_cons hc, encode_digit_cons hd]
    exact ⟨_, _, _, rfl, isHex_of_isDigitOf hc, isHex_of_isDigitOf hd, hrest⟩

/-- The check on bytes finds what is wrong with the characters. -/
theorem wellFormed_encode_iff {cs : List Char} :
    wellFormed (Utf8.encode (String.ofList cs)) = true ↔ EscapesComplete cs := by
  induction cs with
  | nil => exact ⟨fun _ => escapesComplete_nil, fun _ => rfl⟩
  | cons c cs ih =>
      -- the check meets the bytes of one character after the other, and only one has that byte
      rw [encode_ofList_cons, escapesComplete_cons]
      by_cases hc : c = '%'
      · subst hc
        have hbyte : String.utf8EncodeChar '%' = [0x25] := rfl
        rw [hbyte, List.singleton_append, wellFormed_percent_encode_iff, ih]
        simp
      · have hfree : 0x25 ∉ String.utf8EncodeChar c := Utf8.not_mem_utf8EncodeChar (by decide) hc
        rw [wellFormed_append_of_not_mem hfree, ih]
        simp [hc]

theorem decode_digits {high low : Char} {h l : Nat} (hhigh : IsDigitOf high h)
    (hlow : IsDigitOf low l) (rest : Bytes) :
    decode (0x25 :: UInt8.ofNat high.toNat :: UInt8.ofNat low.toNat :: rest) =
      UInt8.ofNat (h * 16 + l) :: decode rest := by
  have hvalue : UInt8.ofNat h * 16 + UInt8.ofNat l = UInt8.ofNat (h * 16 + l) := by
    rw [UInt8.ofNat_add, UInt8.ofNat_mul]
    rfl
  rw [decode, (isDigitOf_spec hhigh).2.1, (isDigitOf_spec hlow).2.1]
  exact congrArg (· :: decode rest) hvalue

/-! ## Separators -/

/-- A digit is no separator, so digits that stand before one stand there without it. -/
theorem beginsWithDigits_append_cons {sep : Char} (hdigit : ∀ n, ¬ IsDigitOf sep n)
    {xs ys : List Char} : BeginsWithDigits (xs ++ sep :: ys) ↔ BeginsWithDigits xs := by
  constructor
  · rintro ⟨high, low, rest, h, l, heq, hhigh, hlow⟩
    match xs with
    | [] =>
        cases heq
        exact absurd hhigh (hdigit h)
    | [x] =>
        cases heq
        exact absurd hlow (hdigit l)
    | x :: y :: others =>
        cases heq
        exact ⟨high, low, others, h, l, rfl, hhigh, hlow⟩
  · rintro ⟨high, low, rest, h, l, rfl, hhigh, hlow⟩
    exact ⟨high, low, rest ++ sep :: ys, h, l, rfl, hhigh, hlow⟩

theorem escapesComplete_append_cons {sep : Char} (hne : sep ≠ '%')
    (hdigit : ∀ n, ¬ IsDigitOf sep n) {xs ys : List Char} :
    EscapesComplete (xs ++ sep :: ys) ↔ EscapesComplete xs ∧ EscapesComplete ys := by
  induction xs with
  | nil =>
      rw [List.nil_append, escapesComplete_cons_of_ne hne]
      exact (and_iff_right escapesComplete_nil).symm
  | cons x xs ih =>
      -- a percent sign close to the separator is short of digits with and without it
      rw [List.cons_append, escapesComplete_cons, escapesComplete_cons, ih,
        beginsWithDigits_append_cons hdigit, and_assoc]

theorem not_isDigitOf {c : Char} (h : c ∈ ['%', '+', '&', '=']) (n : Nat) : ¬ IsDigitOf c n :=
  fun hdigit => (isDigitOf_spec hdigit).2.2 h

/-- Escapes are complete in a joined text if they are so in its pieces. -/
theorem escapesComplete_intercalate (pieces : List (List Char)) :
    EscapesComplete (['&'].intercalate pieces) ↔ ∀ piece ∈ pieces, EscapesComplete piece := by
  induction pieces with
  | nil => exact ⟨fun _ => nofun, fun _ => escapesComplete_nil⟩
  | cons piece rest ih =>
      cases rest with
      | nil => simp
      | cons next more =>
          rw [List.intercalate_cons_cons, List.append_assoc, List.singleton_append,
            escapesComplete_append_cons (by decide) (not_isDigitOf (by decide)), ih]
          exact List.forall_mem_cons.symm

/-- Escapes are complete in a pair if they are so before and behind its equals sign. -/
theorem escapesComplete_cutAt {pair key : List Char} {value? : Option (List Char)}
    (h : CutAt '=' pair key value?) :
    EscapesComplete pair ↔ EscapesComplete key ∧ EscapesComplete (value?.getD []) := by
  rw [h.parts]
  cases value? with
  | none =>
      rw [Option.elim_none, List.append_nil]
      exact (and_iff_left escapesComplete_nil).symm
  | some value =>
      exact escapesComplete_append_cons (by decide) (not_isDigitOf (by decide))

end Percent

namespace Form

open Percent (IsDigitOf EscapesComplete)

/-! ## Reading -/

/-- The bytes that a written key or value stands for. -/
inductive Reads : List Char → Bytes → Prop
  | nil : Reads [] []
  | plus {rest : List Char} {bytes : Bytes} (others : Reads rest bytes) :
      Reads ('+' :: rest) (0x20 :: bytes)
  | escape {high low : Char} {h l : Nat} {rest : List Char} {bytes : Bytes}
      (first : IsDigitOf high h) (second : IsDigitOf low l) (others : Reads rest bytes) :
      Reads ('%' :: high :: low :: rest) (UInt8.ofNat (h * 16 + l) :: bytes)
  | char {c : Char} {rest : List Char} {bytes : Bytes} (noPlus : c ≠ '+') (noPercent : c ≠ '%')
      (others : Reads rest bytes) : Reads (c :: rest) (String.utf8EncodeChar c ++ bytes)

theorem plusToSpace_digit {c : Char} {n : Nat} (h : IsDigitOf c n) :
    plusToSpace (UInt8.ofNat c.toNat) = UInt8.ofNat c.toNat := by
  have hne : UInt8.ofNat c.toNat ≠ 0x2B := by
    intro heq
    have hhex := Percent.isHex_of_isDigitOf h
    rw [heq] at hhex
    cases hhex
  rw [plusToSpace, if_neg hne]

theorem map_plusToSpace_of_not_mem {bytes : Bytes} (h : 0x2B ∉ bytes) :
    bytes.map plusToSpace = bytes := by
  refine (List.map_congr_left ?_).trans (List.map_id bytes)
  intro b hb
  have hne : b ≠ 0x2B := fun heq => h (heq ▸ hb)
  rw [plusToSpace, if_neg hne, id]

theorem decodeBytes_of_reads {cs : List Char} {bytes : Bytes} (h : Reads cs bytes) :
    decodeBytes cs = bytes := by
  induction h with
  | nil => rfl
  | @plus rest bytes _ ih =>
      have hbyte : String.utf8EncodeChar '+' = [0x2B] := rfl
      rw [decodeBytes, Utf8.encode_ofList_cons, hbyte, List.singleton_append, List.map_cons,
        Percent.decode_cons_of_ne (by decide)]
      exact congrArg (0x20 :: ·) ih
  | @escape high low h l rest bytes hhigh hlow _ ih =>
      have hbyte : String.utf8EncodeChar '%' = [0x25] := rfl
      rw [decodeBytes, Utf8.encode_ofList_cons, hbyte, List.singleton_append,
        Percent.encode_digit_cons hhigh, Percent.encode_digit_cons hlow, List.map_cons,
        List.map_cons, List.map_cons, plusToSpace_digit hhigh, plusToSpace_digit hlow]
      have hpercent : plusToSpace 0x25 = 0x25 := rfl
      rw [hpercent, Percent.decode_digits hhigh hlow]
      exact congrArg (_ :: ·) ih
  | @char c rest bytes hplus hpercent _ ih =>
      rw [decodeBytes, Utf8.encode_ofList_cons, List.map_append,
        map_plusToSpace_of_not_mem (Utf8.not_mem_utf8EncodeChar (by decide) hplus),
        Percent.decode_append_of_not_mem (Utf8.not_mem_utf8EncodeChar (by decide) hpercent)]
      exact congrArg (String.utf8EncodeChar c ++ ·) ih

/-- A text can be read if its escapes are complete. -/
theorem exists_reads {cs : List Char} (h : EscapesComplete cs) : ∃ bytes, Reads cs bytes := by
  match cs with
  | [] => exact ⟨[], .nil⟩
  | c :: cs =>
      have hparts := Percent.escapesComplete_cons.1 h
      by_cases hpercent : c = '%'
      · -- what is read next begins behind the two digits
        obtain ⟨high, low, rest, h, l, rfl, hhigh, hlow⟩ := hparts.1 hpercent
        have hrest : EscapesComplete rest :=
          (Percent.escapesComplete_digit_cons hlow).1
            ((Percent.escapesComplete_digit_cons hhigh).1 hparts.2)
        obtain ⟨bytes, hbytes⟩ := exists_reads hrest
        exact ⟨_, hpercent ▸ Reads.escape hhigh hlow hbytes⟩
      · obtain ⟨bytes, hbytes⟩ := exists_reads hparts.2
        by_cases hplus : c = '+'
        · exact ⟨_, hplus ▸ Reads.plus hbytes⟩
        · exact ⟨_, .char hplus hpercent hbytes⟩
termination_by cs.length

theorem escapesComplete_of_reads {cs : List Char} {bytes : Bytes} (h : Reads cs bytes) :
    EscapesComplete cs := by
  induction h with
  | nil => exact Percent.escapesComplete_nil
  | plus _ ih => exact (Percent.escapesComplete_cons_of_ne (by decide)).2 ih
  | @escape high low h l rest _ hhigh hlow _ ih =>
      have hdigits : EscapesComplete (high :: low :: rest) :=
        (Percent.escapesComplete_digit_cons hhigh).2
          ((Percent.escapesComplete_digit_cons hlow).2 ih)
      exact Percent.escapesComplete_cons.2 ⟨fun _ => ⟨_, _, _, h, l, rfl, hhigh, hlow⟩, hdigits⟩
  | char _ hpercent _ ih => exact (Percent.escapesComplete_cons_of_ne hpercent).2 ih

/-- A text is read where its escapes are complete, and then as decoding reads it. -/
theorem reads_iff {cs : List Char} {bytes : Bytes} :
    Reads cs bytes ↔ EscapesComplete cs ∧ decodeBytes cs = bytes := by
  constructor
  · intro h
    exact ⟨escapesComplete_of_reads h, decodeBytes_of_reads h⟩
  · rintro ⟨hescapes, rfl⟩
    obtain ⟨bytes, h⟩ := exists_reads hescapes
    exact (decodeBytes_of_reads h).symm ▸ h

end Form

end RestTemplates
