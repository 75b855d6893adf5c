import RestTemplates.Proofs.Text.Strict

/-!
# Pieces — what a front of the bytes decides

Every byte belongs to one piece, and no piece has more than four.  A machine that reads on only adds
pieces, so those it has finished at some byte stay whatever follows; what the end of the input cuts
off is at most three bytes of a sequence that has begun there.

This file defines:

* `Utf8.Pending.Waits`, a begun sequence with room for what is still to come,
* `Utf8.Scan.Covers`, a machine that has read so many bytes.

It proves:

* `Scan.Covers.push` and `covers_scan`, one byte and all of them,
* `width_pieces` and `length_le_pieces`, the pieces of some bytes cover them,
* `exists_pieces_append`, which pieces of a front are pieces of the whole.
-/

namespace RestTemplates

namespace Utf8

/-! ## Begun sequences -/

namespace Pending

/-- A sequence that was begun by as many bytes as it counts and is complete after at most four. -/
structure Waits (p : Pending) : Prop where
  begun : ∃ begun, p.BegunBy begun ∧ begun.length = p.used
  expected : p.expected ≠ []
  room : p.used + p.expected.length ≤ 4

variable {p q : Pending} {b : UInt8} {c : Char}

theorem Waits.used_le (h : p.Waits) : p.used ≤ 3 := by
  have hexpected : 0 < p.expected.length := List.length_pos_iff.2 h.expected
  have hroom := h.room
  omega

/-- A byte that fits and completes nothing is one of those expected. -/
theorem of_next_inr (next : p.next b = some (.inr q)) :
    q.used = p.used + 1 ∧ q.expected ≠ [] ∧ p.expected.length = q.expected.length + 1 := by
  obtain ⟨bits, used, expected⟩ := p
  cases expected with
  | nil => cases next
  | cons range more =>
      cases more with
      | nil => simp [Pending.next] at next
      | cons second more =>
          simp only [Pending.next, List.isEmpty_cons, Bool.false_eq_true, ↓reduceIte,
            Option.ite_none_right_eq_some, Option.some.injEq, Sum.inr.injEq] at next
          obtain ⟨-, rfl⟩ := next
          exact ⟨rfl, List.cons_ne_nil second more, rfl⟩

theorem Waits.more (h : p.Waits) (next : p.next b = some (.inr q)) : q.Waits := by
  obtain ⟨hused, hexpected, hlength⟩ := of_next_inr next
  rcases h.begun with ⟨begun, hbegun, hbytes⟩
  have hroom := h.room
  refine ⟨⟨begun ++ [b], hbegun.more next, ?_⟩, hexpected, by omega⟩
  rw [List.length_append, hbytes, hused]
  rfl

/-- The character that comes out has the bytes read so far and this one. -/
theorem Waits.utf8Size_of_last (h : p.Waits) (next : p.next b = some (.inl c)) :
    c.utf8Size = p.used + 1 := by
  rcases h.begun with ⟨begun, hbegun, hbytes⟩
  calc c.utf8Size
      = (String.utf8EncodeChar c).length := (String.length_utf8EncodeChar c).symm
    _ = (begun ++ [b]).length := by rw [hbegun.last next]
    _ = p.used + 1 := by rw [List.length_append, hbytes]; rfl

theorem waits_of_lead (h : Lead.of b = .pending p) : p.Waits ∧ p.used = 1 := by
  have hbegun := begunBy_lead h
  rcases lead_cases h with ⟨k, -, -, -, rfl⟩ | ⟨k, -, -, rfl⟩ | ⟨k, -, -, rfl⟩
  all_goals
    refine ⟨⟨⟨[b], hbegun, rfl⟩, List.cons_ne_nil _ _, ?_⟩, rfl⟩
    simp

end Pending

/-! ## What was read -/

theorem width_append (all others : List Piece) :
    width (all ++ others) = width all + width others := by
  induction all with
  | nil => simp [width]
  | cons piece all ih => simp [width, ih, Nat.add_assoc]

theorem width_reverse (all : List Piece) : width all.reverse = width all := by
  induction all with
  | nil => rfl
  | cons piece all ih => simp [width, width_append, ih, Nat.add_comm]

namespace Scan

/-- The number of bytes of the begun sequence. -/
def begun (s : Scan) : Nat := s.pending.elim 0 (·.used)

/-- The begun sequence as the piece that it is when nothing follows. -/
def cut (s : Scan) : List Piece := (s.pending.map fun p => .truncated p.used).toList

/-- The machine has read so many bytes: they are those of the finished pieces, none of which is
longer than four, and of the begun sequence. -/
structure Covers (s : Scan) (n : Nat) : Prop where
  total : width s.pieces + s.begun = n
  narrow : ∀ piece ∈ s.pieces, piece.width ≤ 4
  waits : ∀ p ∈ s.pending, p.Waits

theorem begun_le {s : Scan} {n : Nat} (h : s.Covers n) : s.begun ≤ 3 := by
  rw [begun]
  cases hpending : s.pending with
  | none => exact Nat.zero_le 3
  | some p => exact (h.waits p hpending).used_le

theorem covers_start : start.Covers 0 := ⟨rfl, nofun, nofun⟩

/-- One more finished piece. -/
theorem covers_cons {pieces : List Piece} {piece : Piece} {n : Nat}
    (total : width pieces + piece.width = n) (narrow : ∀ piece ∈ pieces, piece.width ≤ 4)
    (hpiece : piece.width ≤ 4) : Covers ⟨piece :: pieces, none⟩ n := by
  refine ⟨?_, List.forall_mem_cons.2 ⟨hpiece, narrow⟩, nofun⟩
  have hnone : begun ⟨piece :: pieces, none⟩ = 0 := rfl
  rw [hnone, Nat.add_zero, width, Nat.add_comm, total]

/-- A byte that starts a new sequence. -/
theorem covers_lead {pieces : List Piece} {n : Nat} (total : width pieces = n)
    (narrow : ∀ piece ∈ pieces, piece.width ≤ 4) (b : UInt8) : (lead pieces b).Covers (n + 1) := by
  rw [lead]
  cases hlead : Lead.of b with
  | scalar c =>
      have hsize : c.utf8Size = 1 := by
        rw [← String.length_utf8EncodeChar, lead_scalar hlead]
        rfl
      refine covers_cons ?_ narrow (Nat.le_trans (Nat.le_of_eq hsize) (by decide))
      rw [total, Piece.width, hsize]
  | pending p =>
      obtain ⟨hwaits, hused⟩ := Pending.waits_of_lead hlead
      refine ⟨?_, narrow, fun q hq => Option.some.inj hq ▸ hwaits⟩
      rw [begun, Option.elim_some, hused, total]
  | invalid =>
      refine covers_cons ?_ narrow (by decide)
      rw [total, Piece.width]

/-- One byte more, which is in the begun sequence, completes it, or starts a new one. -/
theorem Covers.push {s : Scan} {n : Nat} (h : s.Covers n) (b : UInt8) :
    (s.push b).Covers (n + 1) := by
  obtain ⟨pieces, pending⟩ := s
  have htotal := h.total
  have hnarrow : ∀ piece ∈ pieces, piece.width ≤ 4 := h.narrow
  rw [Scan.push]
  cases pending with
  | none => exact covers_lead htotal hnarrow b
  | some p =>
      have hwaits : p.Waits := h.waits p rfl
      have hused := hwaits.used_le
      simp only [begun, Option.elim_some] at htotal ⊢
      cases hnext : p.next b with
      | none =>
          -- what was begun is a piece of its own
          refine covers_lead ?_ (List.forall_mem_cons.2 ⟨by rw [Piece.width]; omega, hnarrow⟩) b
          rw [← htotal]
          exact Nat.add_comm _ _
      | some next =>
          cases next with
          | inl c =>
              have hsize := hwaits.utf8Size_of_last hnext
              refine covers_cons ?_ hnarrow ?_
              · rw [Piece.width, hsize, ← htotal, Nat.add_assoc]
              · rw [Piece.width, hsize]
                omega
          | inr q =>
              refine ⟨?_, hnarrow, fun r hr => Option.some.inj hr ▸ hwaits.more hnext⟩
              rw [begun, Option.elim_some, (Pending.of_next_inr hnext).1, ← htotal, Nat.add_assoc]

theorem Covers.foldl_push {s : Scan} {n : Nat} (h : s.Covers n) (bytes : Bytes) :
    (bytes.foldl Scan.push s).Covers (n + bytes.length) := by
  induction bytes generalizing s n with
  | nil => exact h
  | cons b bytes ih =>
      rw [List.foldl_cons, List.length_cons, Nat.add_comm bytes.length, ← Nat.add_assoc]
      exact ih (h.push b)

theorem finish_eq (s : Scan) : s.finish = s.pieces.reverse ++ s.cut := by
  rw [finish, cut]
  cases s.pending with
  | none => simp
  | some p => simp

theorem mem_cut {s : Scan} {piece : Piece} :
    piece ∈ s.cut ↔ ∃ p ∈ s.pending, piece = .truncated p.used := by
  rw [cut]
  cases s.pending <;> simp

theorem width_cut (s : Scan) : width s.cut = s.begun := by
  rw [cut, begun]
  cases s.pending <;> rfl

end Scan

theorem covers_scan (bytes : Bytes) : (bytes.foldl Scan.push .start).Covers bytes.length := by
  have h := Scan.covers_start.foldl_push bytes
  rwa [Nat.zero_add] at h

/-! ## Pieces -/

/-- The pieces cover the bytes. -/
theorem width_pieces (bytes : Bytes) : width (pieces bytes) = bytes.length := by
  rw [pieces, Scan.finish_eq, width_append, width_reverse, Scan.width_cut]
  exact (covers_scan bytes).total

theorem width_le_of_mem_pieces {bytes : Bytes} {piece : Piece} (h : piece ∈ pieces bytes) :
    piece.width ≤ 4 := by
  have hcovers := covers_scan bytes
  rw [pieces, Scan.finish_eq] at h
  rcases List.mem_append.1 h with hfinished | hcut
  · exact hcovers.narrow piece (List.mem_reverse.1 hfinished)
  · obtain ⟨p, hp, rfl⟩ := Scan.mem_cut.1 hcut
    exact Nat.le_trans (hcovers.waits p hp).used_le (by decide)

theorem width_le {all : List Piece} (h : ∀ piece ∈ all, piece.width ≤ 4) :
    width all ≤ 4 * all.length := by
  induction all with
  | nil => exact Nat.le_refl 0
  | cons piece all ih =>
      obtain ⟨hpiece, hall⟩ := List.forall_mem_cons.1 h
      have hrest := ih hall
      rw [width, List.length_cons]
      omega

theorem length_le_pieces (bytes : Bytes) : bytes.length ≤ 4 * (pieces bytes).length := by
  rw [← width_pieces]
  exact width_le fun _ hpiece => width_le_of_mem_pieces hpiece

/-- As few pieces as there can be have four bytes each. -/
theorem width_eq_of_mem_pieces {bytes : Bytes} (h : 4 * (pieces bytes).length ≤ bytes.length)
    {piece : Piece} (hpiece : piece ∈ pieces bytes) : piece.width = 4 := by
  -- the pieces before and behind this one leave four bytes for it
  obtain ⟨before, after, hsplit⟩ := List.append_of_mem hpiece
  have hnarrow : ∀ other ∈ pieces bytes, other.width ≤ 4 :=
    fun _ hother => width_le_of_mem_pieces hother
  have hwidth := width_pieces bytes
  rw [hsplit] at h hnarrow hwidth
  have hbefore := width_le fun other hother => hnarrow other (List.mem_append_left _ hother)
  have hafter := width_le fun other hother =>
    hnarrow other (List.mem_append_right _ (List.mem_cons_of_mem _ hother))
  have hfour := hnarrow piece (List.mem_append_right _ List.mem_cons_self)
  rw [width_append, width] at hwidth
  rw [List.length_append, List.length_cons] at h
  omega

/-- All pieces of a front are pieces of the whole, but for the one that the end of the front cuts
off, which has at most three bytes. -/
theorem exists_pieces_append (front rest : Bytes) :
    ∃ whole cut more, pieces front = whole ++ cut ∧ pieces (front ++ rest) = whole ++ more ∧
      front.length ≤ 4 * whole.length + 3 := by
  have hcovers := covers_scan front
  have hread : pieces (front ++ rest) =
      (rest.foldl Scan.push (front.foldl Scan.push .start)).finish := by
    rw [pieces, List.foldl_append]
  rw [pieces, hread]
  generalize front.foldl Scan.push .start = s at hcovers
  obtain ⟨more, hmore⟩ := exists_pieces_foldl_push rest s
  refine ⟨s.pieces.reverse, s.cut, more.reverse ++ (rest.foldl Scan.push s).cut, s.finish_eq,
    ?_, ?_⟩
  · rw [Scan.finish_eq, hmore, List.reverse_append, List.append_assoc]
  · have hwidth := width_le hcovers.narrow
    have hbegun := Scan.begun_le hcovers
    have htotal := hcovers.total
    rw [List.length_reverse]
    omega

end Utf8

end RestTemplates
