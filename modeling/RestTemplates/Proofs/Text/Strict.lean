import Mathlib.Data.List.Induction
import RestTemplates.Proofs.Text.Utf8

/-!
# Strict decoding — only the bytes of a text are read as one

The machine `Utf8.Scan` is followed backwards here: as long as it has met nothing but scalar values,
the bytes it has read are those of these characters, followed by the bytes of the sequence that it
has begun.  Of a begun sequence one thing is kept, that whatever completes it makes it the bytes of
the character that comes out.  The machine and the length of a text then tell where the bytes of a
text can be cut.

This file defines:

* `Utf8.Pending.Completed` and `Utf8.Pending.BegunBy`, what may still come and what has come,
* `Utf8.Scan.Reads`, what a machine has read.

It proves:

* `reads_push` and `exists_reads`, one byte and all of them,
* `decode?_eq_some_iff`, strict decoding accepts the bytes of a text and nothing else,
* `exists_append_of_encode`, a front of the bytes that is a text is a front of the text.
-/

namespace RestTemplates

namespace Utf8

/-! ## Begun sequences -/

namespace Pending

/-- These bytes complete a begun sequence to a character. -/
inductive Completed : Pending → Bytes → Char → Prop
  | last {p : Pending} {b : UInt8} {c : Char} (next : p.next b = some (.inl c)) : Completed p [b] c
  | more {p q : Pending} {b : UInt8} {bytes : Bytes} {c : Char} (next : p.next b = some (.inr q))
      (rest : Completed q bytes c) : Completed p (b :: bytes) c

/-- A sequence was begun by these bytes, if every completion makes them the bytes of a character. -/
def BegunBy (p : Pending) (begun : Bytes) : Prop :=
  ∀ bytes c, p.Completed bytes c → String.utf8EncodeChar c = begun ++ bytes

/-- The byte that completes a sequence is the last one of the character. -/
theorem BegunBy.last {p : Pending} {begun : Bytes} {b : UInt8} {c : Char} (h : p.BegunBy begun)
    (next : p.next b = some (.inl c)) : String.utf8EncodeChar c = begun ++ [b] :=
  h _ _ (.last next)

/-- What completes the longer sequence completes this one with the byte before it. -/
theorem BegunBy.more {p q : Pending} {begun : Bytes} {b : UInt8} (h : p.BegunBy begun)
    (next : p.next b = some (.inr q)) : q.BegunBy (begun ++ [b]) := by
  intro bytes c hcompleted
  rw [h _ _ (.more next hcompleted), List.append_assoc, List.singleton_append]

variable {bits used : Nat} {range second : UInt8 × UInt8} {more : List (UInt8 × UInt8)}

theorem completed_one {bytes : Bytes} {c : Char} (h : Completed ⟨bits, used, [range]⟩ bytes c) :
    ∃ b : UInt8, bytes = [b] ∧ (range.1.toNat ≤ b.toNat ∧ b.toNat ≤ range.2.toNat) ∧
      c = Char.ofNat (bits * 64 + b.toNat % 64) := by
  cases h with
  | @last _ b _ next =>
      simp only [Pending.next, UInt8.le_iff_toNat_le, List.isEmpty_nil, ↓reduceIte,
        Option.ite_none_right_eq_some, Option.some.injEq, Sum.inl.injEq] at next
      exact ⟨b, rfl, next.1, next.2.symm⟩
  | more next rest =>
      simp [Pending.next] at next

theorem completed_more {bytes : Bytes} {c : Char}
    (h : Completed ⟨bits, used, range :: second :: more⟩ bytes c) :
    ∃ (b : UInt8) (rest : Bytes), bytes = b :: rest ∧
      (range.1.toNat ≤ b.toNat ∧ b.toNat ≤ range.2.toNat) ∧
      Completed ⟨bits * 64 + b.toNat % 64, used + 1, second :: more⟩ rest c := by
  cases h with
  | last next =>
      simp [Pending.next] at next
  | @more _ q b bytes _ next rest =>
      simp only [Pending.next, UInt8.le_iff_toNat_le, List.isEmpty_cons, Bool.false_eq_true,
        ↓reduceIte, Option.ite_none_right_eq_some, Option.some.injEq, Sum.inr.injEq] at next
      obtain ⟨hrange, rfl⟩ := next
      exact ⟨b, bytes, rfl, hrange, rest⟩

end Pending

theorem toNat_ofNat {n : Nat} (h : n.isValidChar) : (Char.ofNat n).val.toNat = n := by
  rw [Char.ofNat, dif_pos h]
  rfl

theorem ofNat_eq_of_toNat {n : Nat} {b : UInt8} (h : n = b.toNat) : UInt8.ofNat n = b := by
  rw [h, UInt8.ofNat_toNat]

/-! ## Lead bytes -/

/-- The bits of both bytes make a number of two bytes, whose form they are again; so it is with the
longer sequences. -/
theorem begunBy_two {k : Nat} (hlow : 2 ≤ k) (hk : k < 32) :
    Pending.BegunBy ⟨k, 1, [continuation]⟩ [UInt8.ofNat (k + 0xC0)] := by
  intro bytes c h
  obtain ⟨b, rfl, hb, rfl⟩ := Pending.completed_one h
  have hlowb : 0x80 ≤ b.toNat := hb.1
  have hhighb : b.toNat ≤ 0xBF := hb.2
  generalize hn : k * 64 + b.toNat % 64 = n
  have hlead : n / 64 % 32 + 0xC0 = k + 0xC0 := by omega
  rw [String.utf8EncodeChar, toNat_ofNat (Or.inl (by omega)), if_neg (by omega), if_pos (by omega),
    hlead, ofNat_eq_of_toNat (show n % 64 + 0x80 = b.toNat by omega)]
  rfl

/-- The second byte of three leaves no overlong form and no surrogate. -/
theorem bounds_of_secondOfThree {k : Nat} {b : UInt8} (hk : k < 16)
    (h : (secondOfThree k).1.toNat ≤ b.toNat ∧ b.toNat ≤ (secondOfThree k).2.toNat) :
    0x80 ≤ b.toNat ∧ b.toNat ≤ 0xBF ∧ 32 ≤ k * 64 + b.toNat % 64 ∧
      (k * 64 + b.toNat % 64 < 0x360 ∨ 0x37F < k * 64 + b.toNat % 64) := by
  unfold secondOfThree at h
  split at h
  · simp only [UInt8.reduceToNat] at h
    omega
  · split at h
    · simp only [UInt8.reduceToNat] at h
      omega
    · have hlow : 0x80 ≤ b.toNat := h.1
      have hhigh : b.toNat ≤ 0xBF := h.2
      omega

theorem begunBy_three {k : Nat} (hk : k < 16) :
    Pending.BegunBy ⟨k, 1, [secondOfThree k, continuation]⟩ [UInt8.ofNat (k + 0xE0)] := by
  intro bytes c h
  obtain ⟨a, rest, rfl, ha, hrest⟩ := Pending.completed_more h
  obtain ⟨b, rfl, hb, rfl⟩ := Pending.completed_one hrest
  obtain ⟨hlowa, hhigha, hlow, hsurrogate⟩ := bounds_of_secondOfThree hk ha
  have hlowb : 0x80 ≤ b.toNat := hb.1
  have hhighb : b.toNat ≤ 0xBF := hb.2
  generalize hn : (k * 64 + a.toNat % 64) * 64 + b.toNat % 64 = n
  have hvalid : n.isValidChar := by
    rw [Nat.isValidChar]
    omega
  have hlead : n / 4096 % 16 + 0xE0 = k + 0xE0 := by omega
  rw [String.utf8EncodeChar, toNat_ofNat hvalid, if_neg (by omega), if_neg (by omega),
    if_pos (by omega), hlead, ofNat_eq_of_toNat (show n / 64 % 64 + 0x80 = a.toNat by omega),
    ofNat_eq_of_toNat (show n % 64 + 0x80 = b.toNat by omega)]
  rfl

/-- The second byte of four leaves no overlong form and no number that is too large. -/
theorem bounds_of_secondOfFour {k : Nat} {b : UInt8} (hk : k < 5)
    (h : (secondOfFour k).1.toNat ≤ b.toNat ∧ b.toNat ≤ (secondOfFour k).2.toNat) :
    0x80 ≤ b.toNat ∧ b.toNat ≤ 0xBF ∧ 16 ≤ k * 64 + b.toNat % 64 ∧
      k * 64 + b.toNat % 64 < 0x110 := by
  unfold secondOfFour at h
  split at h
  · simp only [UInt8.reduceToNat] at h
    omega
  · split at h
    · simp only [UInt8.reduceToNat] at h
      omega
    · have hlow : 0x80 ≤ b.toNat := h.1
      have hhigh : b.toNat ≤ 0xBF := h.2
      omega

theorem begunBy_four {k : Nat} (hk : k < 5) :
    Pending.BegunBy ⟨k, 1, [secondOfFour k, continuation, continuation]⟩
      [UInt8.ofNat (k + 0xF0)] := by
  intro bytes c h
  obtain ⟨a, rest, rfl, ha, hrest⟩ := Pending.completed_more h
  obtain ⟨b, rest', rfl, hb, hrest'⟩ := Pending.completed_more hrest
  obtain ⟨d, rfl, hd, rfl⟩ := Pending.completed_one hrest'
  obtain ⟨hlowa, hhigha, hlow, hhigh⟩ := bounds_of_secondOfFour hk ha
  have hlowb : 0x80 ≤ b.toNat := hb.1
  have hhighb : b.toNat ≤ 0xBF := hb.2
  have hlowd : 0x80 ≤ d.toNat := hd.1
  have hhighd : d.toNat ≤ 0xBF := hd.2
  generalize hn : ((k * 64 + a.toNat % 64) * 64 + b.toNat % 64) * 64 + d.toNat % 64 = n
  have hvalid : n.isValidChar := by
    rw [Nat.isValidChar]
    omega
  have hlead : n / 262144 % 8 + 0xF0 = k + 0xF0 := by omega
  rw [String.utf8EncodeChar, toNat_ofNat hvalid, if_neg (by omega), if_neg (by omega),
    if_neg (by omega), hlead, ofNat_eq_of_toNat (show n / 4096 % 64 + 0x80 = a.toNat by omega),
    ofNat_eq_of_toNat (show n / 64 % 64 + 0x80 = b.toNat by omega),
    ofNat_eq_of_toNat (show n % 64 + 0x80 = d.toNat by omega)]
  rfl

/-- The lead bytes, each written as its first bits and the mark of the length. -/
theorem lead_cases {b : UInt8} {p : Pending} (h : Lead.of b = .pending p) :
    (∃ k, 2 ≤ k ∧ k < 32 ∧ b = UInt8.ofNat (k + 0xC0) ∧ p = ⟨k, 1, [continuation]⟩) ∨
    (∃ k < 16, b = UInt8.ofNat (k + 0xE0) ∧ p = ⟨k, 1, [secondOfThree k, continuation]⟩) ∨
    (∃ k < 5, b = UInt8.ofNat (k + 0xF0) ∧
      p = ⟨k, 1, [secondOfFour k, continuation, continuation]⟩) := by
  have hbyte (m : Nat) (hm : m ≤ b.toNat) : b = UInt8.ofNat (b.toNat - m + m) :=
    (ofNat_eq_of_toNat (Nat.sub_add_cancel hm)).symm
  by_cases hone : b.toNat < 0xC2 ∨ 0xF5 ≤ b.toNat
  · -- the other bytes begin nothing
    simp only [Lead.of, UInt8.lt_iff_toNat_lt, UInt8.reduceToNat] at h
    rcases hone with hlow | hhigh
    · split at h
      · cases h
      · cases h
    · rw [if_neg (by omega), if_neg (by omega), if_neg (by omega), if_neg (by omega),
        if_neg (by omega)] at h
      cases h
  · by_cases htwo : b.toNat < 0xE0
    · have hb := hbyte 0xC0 (by omega)
      have hlead := lead_two (b.toNat - 0xC0) (by omega) (by omega)
      rw [← hb, h, Lead.pending.injEq] at hlead
      exact .inl ⟨_, by omega, by omega, hb, hlead⟩
    · by_cases hthree : b.toNat < 0xF0
      · have hb := hbyte 0xE0 (by omega)
        have hlead := lead_three (b.toNat - 0xE0) (by omega)
        rw [← hb, h, Lead.pending.injEq] at hlead
        exact .inr (.inl ⟨_, by omega, hb, hlead⟩)
      · have hb := hbyte 0xF0 (by omega)
        have hlead := lead_four (b.toNat - 0xF0) (by omega)
        rw [← hb, h, Lead.pending.injEq] at hlead
        exact .inr (.inr ⟨_, by omega, hb, hlead⟩)

theorem begunBy_lead {b : UInt8} {p : Pending} (h : Lead.of b = .pending p) : p.BegunBy [b] := by
  rcases lead_cases h with ⟨k, hlow, hk, rfl, rfl⟩ | ⟨k, hk, rfl, rfl⟩ | ⟨k, hk, rfl, rfl⟩
  · exact begunBy_two hlow hk
  · exact begunBy_three hk
  · exact begunBy_four hk

theorem lead_scalar {b : UInt8} {c : Char} (h : Lead.of b = .scalar c) :
    String.utf8EncodeChar c = [b] := by
  by_cases hb : b.toNat < 0x80
  · have hlead := lead_one b.toNat hb
    rw [UInt8.ofNat_toNat, h, Lead.scalar.injEq] at hlead
    rw [hlead, String.utf8EncodeChar, toNat_ofNat (Or.inl (by omega)), if_pos (by omega)]
    exact congrArg (fun byte => [byte]) (UInt8.ofNat_toNat)
  · -- all other bytes begin a sequence or nothing at all
    have hlow : ¬ b < 0x80 := fun hlt => hb (UInt8.lt_iff_toNat_lt.1 hlt)
    rw [Lead.of, if_neg hlow] at h
    repeat' split at h
    all_goals cases h

/-! ## What was read -/

/-- The machine has met these characters and nothing else, and then begun with these bytes. -/
structure Scan.Reads (s : Scan) (chars : List Char) (begun : Bytes) : Prop where
  pieces : s.pieces = (chars.map .scalar).reverse
  pending : s.pending.elim (begun = []) (·.BegunBy begun)

/-- Pieces are only added. -/
theorem exists_pieces_lead (pieces : List Piece) (b : UInt8) :
    ∃ more, (Scan.lead pieces b).pieces = more ++ pieces := by
  rw [Scan.lead]
  cases Lead.of b with
  | scalar c => exact ⟨[.scalar c], rfl⟩
  | pending p => exact ⟨[], rfl⟩
  | invalid => exact ⟨[.invalid 1], rfl⟩

theorem scalar_cons_eq_iff {c : Char} {pieces : List Piece} {chars : List Char} :
    .scalar c :: pieces = (chars.map Piece.scalar).reverse ↔
      ∃ before, chars = before ++ [c] ∧ pieces = (before.map Piece.scalar).reverse := by
  constructor
  · intro h
    have hmap : chars.map Piece.scalar = pieces.reverse ++ [.scalar c] := by
      rw [← List.reverse_cons, h, List.reverse_reverse]
    obtain ⟨before, last, rfl, hbefore, hlast⟩ := List.map_eq_append_iff.1 hmap
    obtain ⟨d, rest, rfl, hd, hrest⟩ := List.map_eq_cons_iff.1 hlast
    cases hd
    rw [List.map_eq_nil_iff.1 hrest]
    exact ⟨before, rfl, by rw [hbefore, List.reverse_reverse]⟩
  · rintro ⟨before, rfl, rfl⟩
    simp

theorem invalid_notMem (width : Nat) (chars : List Char) :
    Piece.invalid width ∉ (chars.map Piece.scalar).reverse := by
  simp

/-- One byte more, if it leaves nothing but characters. -/
theorem reads_push {s : Scan} {b : UInt8} {chars : List Char}
    (h : (s.push b).pieces = (chars.map Piece.scalar).reverse) :
    ∃ before, s.pieces = (before.map Piece.scalar).reverse ∧
      ∀ begun, s.Reads before begun → ∃ begun', (s.push b).Reads chars begun' ∧
        before.flatMap String.utf8EncodeChar ++ begun ++ [b] =
          chars.flatMap String.utf8EncodeChar ++ begun' := by
  obtain ⟨pieces, pending⟩ := s
  rw [Scan.push] at h ⊢
  cases pending with
  | none =>
      simp only [Scan.lead] at h ⊢
      cases hlead : Lead.of b with
      | scalar c =>
          rw [hlead] at h
          obtain ⟨before, rfl, hbefore⟩ := scalar_cons_eq_iff.1 h
          refine ⟨before, hbefore, fun begun hreads => ⟨[], ⟨h, rfl⟩, ?_⟩⟩
          have hbegun : begun = [] := hreads.pending
          simp [hbegun, lead_scalar hlead]
      | pending p =>
          rw [hlead] at h
          refine ⟨chars, h, fun begun hreads => ⟨[b], ⟨h, begunBy_lead hlead⟩, ?_⟩⟩
          have hbegun : begun = [] := hreads.pending
          rw [hbegun, List.append_nil]
      | invalid =>
          -- the piece that a byte out of place leaves is none of the characters
          rw [hlead] at h
          have hmem : Piece.invalid 1 ∈ (chars.map Piece.scalar).reverse := by
            rw [← h]
            exact List.mem_cons_self
          exact absurd hmem (invalid_notMem _ _)
  | some p =>
      simp only at h ⊢
      cases hnext : p.next b with
      | none =>
          rw [hnext] at h
          obtain ⟨more, hmore⟩ := exists_pieces_lead (.invalid p.used :: pieces) b
          have hmem : Piece.invalid p.used ∈ (chars.map Piece.scalar).reverse := by
            rw [← h, hmore]
            simp
          exact absurd hmem (invalid_notMem _ _)
      | some next =>
          rw [hnext] at h
          cases next with
          | inl c =>
              obtain ⟨before, rfl, hbefore⟩ := scalar_cons_eq_iff.1 h
              refine ⟨before, hbefore, fun begun hreads => ⟨[], ⟨h, rfl⟩, ?_⟩⟩
              have hbegun : p.BegunBy begun := hreads.pending
              simp [hbegun.last hnext]
          | inr q =>
              refine ⟨chars, h, fun begun hreads => ⟨begun ++ [b], ⟨h, ?_⟩, ?_⟩⟩
              · have hbegun : p.BegunBy begun := hreads.pending
                exact hbegun.more hnext
              · rw [List.append_assoc]

/-- Bytes that leave nothing but characters, and perhaps a begun sequence. -/
theorem exists_reads {bytes : Bytes} {chars : List Char}
    (h : (bytes.foldl Scan.push .start).pieces = (chars.map Piece.scalar).reverse) :
    ∃ begun, (bytes.foldl Scan.push .start).Reads chars begun ∧
      bytes = chars.flatMap String.utf8EncodeChar ++ begun := by
  -- the machine reads from the front, so the last byte is taken off
  induction bytes using List.reverseRecOn generalizing chars with
  | nil =>
      have hchars : chars = [] := by
        have hnil : chars.map Piece.scalar = [] := by
          rw [← List.reverse_eq_nil_iff, ← h]
          rfl
        exact List.map_eq_nil_iff.1 hnil
      subst hchars
      exact ⟨[], ⟨h, rfl⟩, rfl⟩
  | append_singleton bytes b ih =>
      rw [List.foldl_append] at h ⊢
      obtain ⟨before, hbefore, hstep⟩ := reads_push h
      obtain ⟨begun, hreads, hbytes⟩ := ih hbefore
      obtain ⟨begun', hreads', happend⟩ := hstep begun hreads
      exact ⟨begun', hreads', by rw [hbytes, happend]⟩

/-! ## Strict decoding -/

/-- Bytes that are cut into nothing but characters are the bytes of these. -/
theorem eq_flatMap_of_pieces {bytes : Bytes} {chars : List Char}
    (h : pieces bytes = chars.map Piece.scalar) : bytes = chars.flatMap String.utf8EncodeChar := by
  rw [pieces, Scan.finish] at h
  split at h
  · next hpending =>
    have hpieces := congrArg List.reverse h
    rw [List.reverse_reverse] at hpieces
    obtain ⟨begun, hreads, hbytes⟩ := exists_reads hpieces
    have hbegun := hreads.pending
    rw [hpending] at hbegun
    rw [hbytes, show begun = [] from hbegun, List.append_nil]
  · next p hpending =>
    -- a sequence that is still begun at the end would be a piece of its own
    have hmem : Piece.truncated p.used ∈ chars.map Piece.scalar := by
      rw [← h]
      simp
    simp at hmem

theorem eq_map_scalar {all : List Piece} (h : ∀ piece ∈ all, piece.isScalar = true) :
    all = (all.filterMap Piece.char?).map Piece.scalar := by
  induction all with
  | nil => rfl
  | cons piece rest ih =>
      have hrest := ih fun piece hpiece => h piece (List.mem_cons_of_mem _ hpiece)
      have hpiece := h piece List.mem_cons_self
      cases piece with
      | scalar c => exact congrArg (Piece.scalar c :: ·) hrest
      | invalid width => cases hpiece
      | truncated width => cases hpiece

theorem pieces_of_decode? {bytes : Bytes} {text : String} (h : decode? bytes = some text) :
    pieces bytes = text.toList.map Piece.scalar := by
  rw [decode?, decode] at h
  generalize pieces bytes = all at h ⊢
  split at h
  · next hrest =>
    -- nothing is left behind the front of scalar values
    have hgood : all.takeWhile Piece.isScalar = all :=
      (List.takeWhile_prefix _).eq_of_length_le (List.drop_eq_nil_iff.1 hrest)
    rw [hgood] at h
    cases h
    rw [String.toList_ofList]
    exact eq_map_scalar (List.takeWhile_eq_self_iff.1 hgood)
  · cases h

/-- Strict decoding accepts the bytes of a text and nothing else. -/
theorem decode?_eq_some_iff {bytes : Bytes} {text : String} :
    decode? bytes = some text ↔ encode text = bytes := by
  constructor
  · intro h
    rw [encode, ← eq_flatMap_of_pieces (pieces_of_decode? h)]
  · rintro rfl
    exact decode?_encode text

/-! ## Fronts -/

theorem encode_append (a b : String) : encode (a ++ b) = encode a ++ encode b := by
  rw [encode, String.toList_append, List.flatMap_append]
  rfl

theorem length_encode (text : String) : (encode text).length = text.utf8ByteSize := by
  have h (cs : List Char) :
      (cs.flatMap String.utf8EncodeChar).length = (String.ofList cs).utf8ByteSize := by
    induction cs with
    | nil => rfl
    | cons c cs ih =>
        rw [List.flatMap_cons, List.length_append, ih, String.length_utf8EncodeChar,
          String.ofList_cons, String.utf8ByteSize_append, String.utf8ByteSize_singleton]
  rw [encode, h, String.ofList_toList]

theorem exists_pieces_push (s : Scan) (b : UInt8) :
    ∃ more, (s.push b).pieces = more ++ s.pieces := by
  rw [Scan.push]
  cases s.pending with
  | none => exact exists_pieces_lead s.pieces b
  | some p =>
      dsimp only
      cases p.next b with
      | none =>
          obtain ⟨more, hmore⟩ := exists_pieces_lead (.invalid p.used :: s.pieces) b
          exact ⟨more ++ [.invalid p.used], by simp [hmore]⟩
      | some next =>
          cases next with
          | inl c => exact ⟨[.scalar c], rfl⟩
          | inr q => exact ⟨[], rfl⟩

theorem exists_pieces_foldl_push (bytes : Bytes) (s : Scan) :
    ∃ more, (bytes.foldl Scan.push s).pieces = more ++ s.pieces := by
  induction bytes generalizing s with
  | nil => exact ⟨[], rfl⟩
  | cons b bytes ih =>
      obtain ⟨more, hmore⟩ := ih (s.push b)
      obtain ⟨first, hfirst⟩ := exists_pieces_push s b
      exact ⟨more ++ first, by rw [List.foldl_cons, hmore, hfirst, List.append_assoc]⟩

/-- Where the bytes of a text begin with those of another, so does the text. -/
theorem exists_append_of_encode {front text : String} {rest : Bytes}
    (h : encode text = encode front ++ rest) : ∃ back, text = front ++ back := by
  have hread : (encode text).foldl Scan.push .start =
      rest.foldl Scan.push ((encode front).foldl Scan.push .start) := by
    rw [h, List.foldl_append]
  -- the machine has read the front when it comes to the rest, and only adds to that
  rw [encode, encode, Scan.start, foldl_push_flatMap, foldl_push_flatMap] at hread
  obtain ⟨more, hmore⟩ :=
    exists_pieces_foldl_push rest ⟨(front.toList.map Piece.scalar).reverse ++ [], none⟩
  rw [← hread] at hmore
  simp only [List.append_nil] at hmore
  have hmap : text.toList.map Piece.scalar = front.toList.map Piece.scalar ++ more.reverse := by
    rw [← List.reverse_inj, hmore, List.reverse_append, List.reverse_reverse]
  obtain ⟨chars, back, hchars, hfront, -⟩ := List.map_eq_append_iff.1 hmap
  have hinjective : Function.Injective Piece.scalar := fun _ _ hcd => Piece.scalar.inj hcd
  rw [List.map_inj_right hinjective] at hfront
  refine ⟨String.ofList back, ?_⟩
  rw [← String.toList_inj, hchars, hfront, String.toList_append, String.toList_ofList]

end Utf8

end RestTemplates
