import Mathlib.Data.List.TakeWhile
import RestTemplates.Text.Utf8

/-!
# UTF-8 round trip — reading back the bytes of a text

The bytes of a scalar value lead the machine `Utf8.Scan` from one place between two sequences to the
next, and leave just this scalar value behind.  There is one case for each length of a sequence: a
lead byte tells the length and the first bits, and each continuation byte adds six more.

This module proves:

* `pieces_encode`, the bytes of a text are cut into its scalar values,
* `decode?_encode`, strict decoding gives the text back,
* `encode_ofList_of_ascii` and `eq_ofNat_of_mem_utf8EncodeChar`, ASCII characters are their own
  bytes, and no other character has such bytes.
-/

namespace RestTemplates

namespace Utf8

/-! ## Lead bytes -/

theorem lead_one : ∀ n < 0x80, Lead.of (UInt8.ofNat n) = .scalar (Char.ofNat n) := by
  decide

theorem lead_two : ∀ k < 32, 2 ≤ k →
    Lead.of (UInt8.ofNat (k + 0xC0)) = .pending ⟨k, 1, [continuation]⟩ := by
  decide

/-- The range of the second of three bytes. -/
def secondOfThree (k : Nat) : UInt8 × UInt8 :=
  if k = 0 then (0xA0, 0xBF) else if k = 13 then (0x80, 0x9F) else continuation

theorem lead_three : ∀ k < 16,
    Lead.of (UInt8.ofNat (k + 0xE0)) = .pending ⟨k, 1, [secondOfThree k, continuation]⟩ := by
  decide

/-- The range of the second of four bytes. -/
def secondOfFour (k : Nat) : UInt8 × UInt8 :=
  if k = 0 then (0x90, 0xBF) else if k = 4 then (0x80, 0x8F) else continuation

theorem lead_four : ∀ k < 5,
    Lead.of (UInt8.ofNat (k + 0xF0)) =
      .pending ⟨k, 1, [secondOfFour k, continuation, continuation]⟩ := by
  decide

/-! ## Continuation bytes -/

/-- A byte holds the six bits `k` of a begun sequence if its range admits it. -/
def Admits (range : UInt8 × UInt8) (k : Nat) : Prop :=
  range.1.toNat ≤ k + 0x80 ∧ k + 0x80 ≤ range.2.toNat

theorem admits_continuation {k : Nat} (hk : k < 64) : Admits continuation k := by
  have hlow : continuation.1.toNat = 0x80 := rfl
  have hhigh : continuation.2.toNat = 0xBF := rfl
  exact ⟨by omega, by omega⟩

theorem next_of_admits {bits used k : Nat} {range : UInt8 × UInt8} {more : List (UInt8 × UInt8)}
    (hk : k < 64) (h : Admits range k) :
    Pending.next ⟨bits, used, range :: more⟩ (UInt8.ofNat (k + 0x80)) =
      some (if more.isEmpty then .inl (Char.ofNat (bits * 64 + k))
        else .inr ⟨bits * 64 + k, used + 1, more⟩) := by
  have hbyte : (UInt8.ofNat (k + 0x80)).toNat = k + 0x80 := by
    simp
    omega
  have hrange : range.1 ≤ UInt8.ofNat (k + 0x80) ∧ UInt8.ofNat (k + 0x80) ≤ range.2 := by
    rw [UInt8.le_iff_toNat_le, UInt8.le_iff_toNat_le, hbyte]
    exact h
  have hbits : (k + 0x80) % 64 = k := by omega
  rw [Pending.next]
  dsimp only
  rw [if_pos hrange, hbyte, hbits]

theorem push_last {pieces : List Piece} {bits used k : Nat} {range : UInt8 × UInt8}
    (hk : k < 64) (h : Admits range k) :
    Scan.push ⟨pieces, some ⟨bits, used, [range]⟩⟩ (UInt8.ofNat (k + 0x80)) =
      ⟨.scalar (Char.ofNat (bits * 64 + k)) :: pieces, none⟩ := by
  rw [Scan.push]
  simp [-UInt8.ofNat_add, next_of_admits hk h]

theorem push_inner {pieces : List Piece} {bits used k : Nat} {range second : UInt8 × UInt8}
    {more : List (UInt8 × UInt8)} (hk : k < 64) (h : Admits range k) :
    Scan.push ⟨pieces, some ⟨bits, used, range :: second :: more⟩⟩ (UInt8.ofNat (k + 0x80)) =
      ⟨pieces, some ⟨bits * 64 + k, used + 1, second :: more⟩⟩ := by
  rw [Scan.push]
  simp [-UInt8.ofNat_add, next_of_admits hk h]

/-! ## Scalar values -/

theorem push_lead {pieces : List Piece} {b : UInt8} {p : Pending} (h : Lead.of b = .pending p) :
    Scan.push ⟨pieces, none⟩ b = ⟨pieces, some p⟩ := by
  simp [Scan.push, Scan.lead, h]

theorem foldl_push_two (pieces : List Piece) {a b : Nat} (ha : a < 32) (hlow : 2 ≤ a)
    (hb : b < 64) :
    [UInt8.ofNat (a + 0xC0), UInt8.ofNat (b + 0x80)].foldl Scan.push ⟨pieces, none⟩ =
      ⟨.scalar (Char.ofNat (a * 64 + b)) :: pieces, none⟩ := by
  rw [List.foldl_cons, List.foldl_cons, List.foldl_nil, push_lead (lead_two a ha hlow),
    push_last hb (admits_continuation hb)]

theorem foldl_push_three (pieces : List Piece) {a b c : Nat} (ha : a < 16)
    (hsecond : Admits (secondOfThree a) b) (hb : b < 64) (hc : c < 64) :
    [UInt8.ofNat (a + 0xE0), UInt8.ofNat (b + 0x80), UInt8.ofNat (c + 0x80)].foldl Scan.push
        ⟨pieces, none⟩ =
      ⟨.scalar (Char.ofNat ((a * 64 + b) * 64 + c)) :: pieces, none⟩ := by
  rw [List.foldl_cons, List.foldl_cons, List.foldl_cons, List.foldl_nil,
    push_lead (lead_three a ha), push_inner hb hsecond, push_last hc (admits_continuation hc)]

theorem foldl_push_four (pieces : List Piece) {a b c d : Nat} (ha : a < 5)
    (hsecond : Admits (secondOfFour a) b) (hb : b < 64) (hc : c < 64) (hd : d < 64) :
    [UInt8.ofNat (a + 0xF0), UInt8.ofNat (b + 0x80), UInt8.ofNat (c + 0x80),
        UInt8.ofNat (d + 0x80)].foldl Scan.push ⟨pieces, none⟩ =
      ⟨.scalar (Char.ofNat (((a * 64 + b) * 64 + c) * 64 + d)) :: pieces, none⟩ := by
  rw [List.foldl_cons, List.foldl_cons, List.foldl_cons, List.foldl_cons, List.foldl_nil,
    push_lead (lead_four a ha), push_inner hb hsecond, push_inner hc (admits_continuation hc),
    push_last hd (admits_continuation hd)]

/-- Neither an overlong form nor a surrogate has three bytes with these bits. -/
theorem admits_secondOfThree {n : Nat} (hlow : 0x7FF < n) (hhigh : n ≤ 0xFFFF)
    (hvalid : n < 0xD800 ∨ 0xDFFF < n) :
    Admits (secondOfThree (n / 4096 % 16)) (n / 64 % 64) := by
  unfold Admits secondOfThree
  split
  · simp
    omega
  · split
    · simp
      omega
    · exact admits_continuation (by omega)

/-- Neither an overlong form nor a number too large has four bytes with these bits. -/
theorem admits_secondOfFour {n : Nat} (hlow : 0xFFFF < n) (hhigh : n < 0x110000) :
    Admits (secondOfFour (n / 262144 % 8)) (n / 4096 % 64) := by
  unfold Admits secondOfFour
  split
  · simp
    omega
  · split
    · simp
      omega
    · exact admits_continuation (by omega)

theorem foldl_push_utf8EncodeChar (pieces : List Piece) (c : Char) :
    (String.utf8EncodeChar c).foldl Scan.push ⟨pieces, none⟩ = ⟨.scalar c :: pieces, none⟩ := by
  have hvalid : c.toNat < 0xD800 ∨ 0xDFFF < c.toNat ∧ c.toNat < 0x110000 := c.valid
  have hval : c.val.toNat = c.toNat := rfl
  rw [String.utf8EncodeChar, hval]
  -- from here on only the number counts, whose six-bit groups are put together again
  generalize hn : c.toNat = n at hvalid
  have hc : Char.ofNat n = c := by rw [← hn, Char.ofNat_toNat]
  split
  · next h1 =>
    simp [Scan.push, Scan.lead, lead_one n (by omega), hc]
  · split
    · next h1 h2 =>
      have hbits : n / 64 % 32 * 64 + n % 64 = n := by omega
      rw [foldl_push_two pieces (by omega) (by omega) (by omega), hbits, hc]
    · split
      · next h1 h2 h3 =>
        have hbits : (n / 4096 % 16 * 64 + n / 64 % 64) * 64 + n % 64 = n := by omega
        have hsecond := admits_secondOfThree (n := n) (by omega) h3 (by omega)
        rw [foldl_push_three pieces (by omega) hsecond (by omega) (by omega), hbits, hc]
      · next h1 h2 h3 =>
        have hbits :
            ((n / 262144 % 8 * 64 + n / 4096 % 64) * 64 + n / 64 % 64) * 64 + n % 64 = n := by
          omega
        have hsecond := admits_secondOfFour (n := n) (by omega) (by omega)
        rw [foldl_push_four pieces (by omega) hsecond (by omega) (by omega) (by omega), hbits, hc]

/-! ## Texts -/

theorem foldl_push_flatMap (pieces : List Piece) (cs : List Char) :
    (cs.flatMap String.utf8EncodeChar).foldl Scan.push ⟨pieces, none⟩ =
      ⟨(cs.map Piece.scalar).reverse ++ pieces, none⟩ := by
  induction cs generalizing pieces with
  | nil => rfl
  | cons c cs ih =>
      rw [List.flatMap_cons, List.foldl_append, foldl_push_utf8EncodeChar, ih]
      simp

theorem pieces_encode (text : String) : pieces (encode text) = text.toList.map Piece.scalar := by
  rw [pieces, encode, Scan.start, foldl_push_flatMap]
  simp [Scan.finish]

/-- Strict decoding gives back the text whose bytes it is given. -/
theorem decode?_encode (text : String) : decode? (encode text) = some text := by
  have hscalar : ∀ piece ∈ text.toList.map Piece.scalar, piece.isScalar = true := by
    intro piece hpiece
    rcases List.mem_map.1 hpiece with ⟨c, -, rfl⟩
    rfl
  have hgood : (text.toList.map Piece.scalar).takeWhile Piece.isScalar =
      text.toList.map Piece.scalar := List.takeWhile_eq_self_iff.2 hscalar
  have hchars : (text.toList.map Piece.scalar).filterMap Piece.char? = text.toList := by
    rw [List.filterMap_map]
    exact List.filterMap_some
  have hrest : (text.toList.map Piece.scalar).drop (text.toList.map Piece.scalar).length = [] :=
    List.drop_length
  rw [decode?, decode, pieces_encode]
  simp only [hgood, hrest, hchars, String.ofList_toList]
  rfl

/-- Lossy decoding loses nothing of a text. -/
theorem decodeLossy_encode (text : String) : decodeLossy (encode text) = text := by
  have hchars : (text.toList.map Piece.scalar).map Piece.charLossy = text.toList := by
    rw [List.map_map]
    exact List.map_id _
  rw [decodeLossy, pieces_encode, hchars, String.ofList_toList]

theorem encode_injective {text text' : String} (h : encode text = encode text') : text = text' := by
  have hread : decode? (encode text) = decode? (encode text') := congrArg decode? h
  rw [decode?_encode, decode?_encode] at hread
  exact Option.some.inj hread

/-! ## ASCII -/

/-- Each character as the one byte of its number, which is its UTF-8 form below 128. -/
def asciiBytes (cs : List Char) : Bytes := cs.map fun c => UInt8.ofNat c.toNat

theorem asciiBytes_append (cs ds : List Char) :
    asciiBytes (cs ++ ds) = asciiBytes cs ++ asciiBytes ds :=
  List.map_append

theorem encode_ofList_of_ascii {cs : List Char} (h : ∀ c ∈ cs, c.toNat < 0x80) :
    encode (String.ofList cs) = asciiBytes cs := by
  rw [encode, String.toList_ofList]
  induction cs with
  | nil => rfl
  | cons c cs ih =>
      have hc : c.val.toNat ≤ 127 := Nat.le_of_lt_succ (h c List.mem_cons_self)
      rw [List.flatMap_cons, ih fun d hd => h d (List.mem_cons_of_mem _ hd),
        String.utf8EncodeChar, if_pos hc]
      rfl

/-- A byte below 128 is not part of a longer sequence. -/
theorem eq_ofNat_of_mem_utf8EncodeChar {b : UInt8} {c : Char} (hb : b.toNat < 0x80)
    (h : b ∈ String.utf8EncodeChar c) : c = Char.ofNat b.toNat := by
  have hval : c.val.toNat = c.toNat := rfl
  rw [String.utf8EncodeChar, hval] at h
  generalize hn : c.toNat = n at h
  have hc : c = Char.ofNat n := by rw [← hn, Char.ofNat_toNat]
  split at h
  · next h1 =>
    have hnum : b.toNat = n := by
      rw [List.mem_singleton.1 h]
      simp
      omega
    rw [hc, hnum]
  · -- every byte of a longer sequence has its highest bit set
    exfalso
    split at h
    · simp only [List.mem_cons, List.not_mem_nil, or_false] at h
      rcases h with rfl | rfl
      all_goals
        simp at hb
        omega
    · split at h
      · simp only [List.mem_cons, List.not_mem_nil, or_false] at h
        rcases h with rfl | rfl | rfl
        all_goals
          simp at hb
          omega
      · simp only [List.mem_cons, List.not_mem_nil, or_false] at h
        rcases h with rfl | rfl | rfl | rfl
        all_goals
          simp at hb
          omega

theorem toNat_ofNat_of_ascii : ∀ n < 0x80, (Char.ofNat n).toNat = n := by
  decide

theorem ofNat_toNat_ne {b : UInt8} {c : Char} (hb : b.toNat < 0x80)
    (h : b ≠ UInt8.ofNat c.toNat) : Char.ofNat b.toNat ≠ c := by
  rintro rfl
  rw [toNat_ofNat_of_ascii b.toNat hb, UInt8.ofNat_toNat] at h
  exact h rfl

end Utf8

end RestTemplates
