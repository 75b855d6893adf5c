import RestTemplates.Percent
import RestTemplates.Proofs.Text.Utf8

/-!
# Percent-encoding round trip — escapes are read back as their bytes

An escape is a percent sign with two upper-case digits, all of them ASCII, and reading takes the two
digits for the byte again.  Every other byte stands for itself.

This module proves:

* `decode_escape` and `wellFormed_escape`, what reading does at the front of a byte string,
* `decode_append_of_not_mem` and `wellFormed_append_of_not_mem`, what it does with other bytes,
* `mem_encodeByte`, which characters are written,
* `decode_encode`, written bytes are read back, and `encode_of_kept`, the texts written as they are.
-/

namespace RestTemplates

namespace Percent

open Utf8 (asciiBytes)

theorem forall_byte {p : UInt8 → Prop} (h : ∀ n < 256, p (UInt8.ofNat n)) (b : UInt8) : p b := by
  have hb := h b.toNat b.toNat_lt
  rwa [UInt8.ofNat_toNat] at hb

/-! ## Digits -/

theorem hexValue?_hexDigit :
    ∀ n < 16, hexValue? (UInt8.ofNat (hexDigit n).toNat) = some (UInt8.ofNat n) := by
  decide

theorem digits_lt (b : UInt8) : b.toNat / 16 < 16 ∧ b.toNat % 16 < 16 := by
  have hb := b.toNat_lt
  omega

theorem ofNat_digits (b : UInt8) :
    UInt8.ofNat (b.toNat / 16) * 16 + UInt8.ofNat (b.toNat % 16) = b := by
  have hb := b.toNat_lt
  rw [← UInt8.toNat_inj]
  simp
  omega

/-! ## Reading -/

theorem decode_cons_of_ne {b : UInt8} (h : b ≠ 0x25) (rest : Bytes) :
    decode (b :: rest) = b :: decode rest := by
  rw [decode]
  intro high low more hb
  exact absurd hb h

theorem wellFormed_cons_of_ne {b : UInt8} (h : b ≠ 0x25) (rest : Bytes) :
    wellFormed (b :: rest) = wellFormed rest := by
  rw [wellFormed]
  · intro high low more hb
    exact absurd hb h
  · exact h

theorem decode_escape (b : UInt8) (rest : Bytes) :
    decode (asciiBytes (escape b) ++ rest) = b :: decode rest := by
  have hdigits := digits_lt b
  have hbytes : asciiBytes (escape b) ++ rest =
      0x25 :: UInt8.ofNat (hexDigit (b.toNat / 16)).toNat ::
        UInt8.ofNat (hexDigit (b.toNat % 16)).toNat :: rest := rfl
  rw [hbytes, decode, hexValue?_hexDigit _ hdigits.1, hexValue?_hexDigit _ hdigits.2]
  simp only [ofNat_digits]

theorem wellFormed_escape (b : UInt8) (rest : Bytes) :
    wellFormed (asciiBytes (escape b) ++ rest) = wellFormed rest := by
  have hdigits := digits_lt b
  have hbytes : asciiBytes (escape b) ++ rest =
      0x25 :: UInt8.ofNat (hexDigit (b.toNat / 16)).toNat ::
        UInt8.ofNat (hexDigit (b.toNat % 16)).toNat :: rest := rfl
  rw [hbytes, wellFormed, isHex, isHex, hexValue?_hexDigit _ hdigits.1,
    hexValue?_hexDigit _ hdigits.2]
  rfl

/-! ## Characters written -/

theorem mem_escape {b : UInt8} {c : Char} :
    c ∈ escape b → c = '%' ∨ ∃ n < 16, c = hexDigit n := by
  intro h
  simp only [escape, List.mem_cons, List.not_mem_nil, or_false] at h
  rcases h with h | h | h
  · exact .inl h
  · exact .inr ⟨_, (digits_lt b).1, h⟩
  · exact .inr ⟨_, (digits_lt b).2, h⟩

/-- A written character is a percent sign, a digit, or a kept byte. -/
theorem mem_encodeByte {keep : UInt8 → Bool} {b : UInt8} {c : Char} (h : c ∈ encodeByte keep b) :
    c = '%' ∨ (∃ n < 16, c = hexDigit n) ∨ keep b = true ∧ c = Char.ofNat b.toNat := by
  rw [encodeByte] at h
  split at h
  · next hkeep =>
    exact .inr (.inr ⟨hkeep, List.mem_singleton.1 h⟩)
  · exact (mem_escape h).imp_right .inl

/-! ## Round trip -/

/-- Kept bytes that are ASCII and no percent sign; the other ones are escaped, so that nothing is
written that reading would take for something else. -/
def IsSafe (keep : UInt8 → Bool) : Prop := ∀ b, keep b = true → b.toNat < 0x80 ∧ b ≠ 0x25

theorem asciiBytes_ofNat {b : UInt8} (h : b.toNat < 0x80) :
    asciiBytes [Char.ofNat b.toNat] = [b] := by
  simp [asciiBytes, Utf8.toNat_ofNat_of_ascii _ h]

theorem decode_encodeByte {keep : UInt8 → Bool} (hsafe : IsSafe keep) (b : UInt8) (rest : Bytes) :
    decode (asciiBytes (encodeByte keep b) ++ rest) = b :: decode rest := by
  rw [encodeByte]
  split
  · next hkeep =>
    rw [asciiBytes_ofNat (hsafe b hkeep).1]
    exact decode_cons_of_ne (hsafe b hkeep).2 rest
  · exact decode_escape b rest

theorem decode_encode {keep : UInt8 → Bool} (hsafe : IsSafe keep) (bytes : Bytes) :
    decode (asciiBytes (encode keep bytes)) = bytes := by
  induction bytes with
  | nil => rfl
  | cons b bytes ih =>
      rw [encode, List.flatMap_cons, Utf8.asciiBytes_append, ← encode, decode_encodeByte hsafe, ih]

/-- Bytes without a percent sign stand for themselves, whatever comes behind them. -/
theorem decode_append_of_not_mem {bytes : Bytes} (h : 0x25 ∉ bytes) (rest : Bytes) :
    decode (bytes ++ rest) = bytes ++ decode rest := by
  induction bytes with
  | nil => rfl
  | cons b bytes ih =>
      have hne : b ≠ 0x25 := fun heq => h (heq ▸ List.mem_cons_self)
      rw [List.cons_append, decode_cons_of_ne hne, ih fun hmem => h (List.mem_cons_of_mem _ hmem),
        List.cons_append]

theorem decode_of_not_mem {bytes : Bytes} (h : 0x25 ∉ bytes) : decode bytes = bytes := by
  have happend := decode_append_of_not_mem h []
  rwa [List.append_nil, decode, List.append_nil] at happend

theorem wellFormed_append_of_not_mem {bytes : Bytes} (h : 0x25 ∉ bytes) (rest : Bytes) :
    wellFormed (bytes ++ rest) = wellFormed rest := by
  induction bytes with
  | nil => rfl
  | cons b bytes ih =>
      have hne : b ≠ 0x25 := fun heq => h (heq ▸ List.mem_cons_self)
      rw [List.cons_append, wellFormed_cons_of_ne hne,
        ih fun hmem => h (List.mem_cons_of_mem _ hmem)]

/-- A text of kept ASCII characters is written as it is. -/
theorem encode_of_kept {keep : UInt8 → Bool} {cs : List Char}
    (h : ∀ c ∈ cs, c.toNat < 0x80 ∧ keep (UInt8.ofNat c.toNat) = true) :
    encode keep (Utf8.encode (String.ofList cs)) = cs := by
  rw [Utf8.encode_ofList_of_ascii fun c hc => (h c hc).1, asciiBytes]
  induction cs with
  | nil => rfl
  | cons c rest ih =>
      obtain ⟨hlow, hkeep⟩ := h c List.mem_cons_self
      have hnum : (UInt8.ofNat c.toNat).toNat = c.toNat := by
        simp
        omega
      have hhead : encodeByte keep (UInt8.ofNat c.toNat) = [c] := by
        rw [encodeByte, if_pos hkeep, hnum, Char.ofNat_toNat]
      have hrest := ih fun d hd => h d (List.mem_cons_of_mem _ hd)
      rw [List.map_cons, encode, List.flatMap_cons, hhead, ← encode, hrest]
      rfl

end Percent

end RestTemplates
