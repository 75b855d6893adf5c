import RestTemplates.Base64

/-!
# Fronts of Base64 — which characters the first bytes decide

Four characters stand for three bytes, so each shows six bits, and it is decided as soon as the byte
with the last of these is there.  Of a cut text only the character at its end may change when the
bytes go on, and only if the cut falls within a group.

This module proves:

* `length_encodeChars`, how many characters there are,
* `take_encodeChars_take`, how many of them the first bytes decide,
* `toNat_lt_of_mem_encodeChars`, that all of them are ASCII.
-/

namespace RestTemplates

namespace Base64

/-! ## Groups -/

theorem length_quantum (a b c : UInt8) : (quantum a b c).length = 4 := rfl

/-- The first character shows bits of the first byte only. -/
theorem take_quantum_of_le_one (a b b' c c' : UInt8) {m : Nat} (h : m ≤ 1) :
    (quantum a b c).take m = (quantum a b' c').take m := by
  have hb := b.toNat_lt
  have hb' := b'.toNat_lt
  have hc := c.toNat_lt
  have hc' := c'.toNat_lt
  have hfirst : ((a.toNat * 256 + b.toNat) * 256 + c.toNat) / 262144 =
      ((a.toNat * 256 + b'.toNat) * 256 + c'.toNat) / 262144 := by
    omega
  have hone : (quantum a b c).take 1 = (quantum a b' c').take 1 := by
    simp only [quantum, List.take_succ_cons, List.take_zero, hfirst]
  calc (quantum a b c).take m
      = ((quantum a b c).take 1).take m := by rw [List.take_take, Nat.min_eq_left h]
    _ = ((quantum a b' c').take 1).take m := by rw [hone]
    _ = (quantum a b' c').take m := by rw [List.take_take, Nat.min_eq_left h]

/-- The second one shows no bits of the third byte. -/
theorem take_quantum_of_le_two (a b c c' : UInt8) {m : Nat} (h : m ≤ 2) :
    (quantum a b c).take m = (quantum a b c').take m := by
  have hc := c.toNat_lt
  have hc' := c'.toNat_lt
  have hfirst : ((a.toNat * 256 + b.toNat) * 256 + c.toNat) / 262144 =
      ((a.toNat * 256 + b.toNat) * 256 + c'.toNat) / 262144 := by
    omega
  have hsecond : ((a.toNat * 256 + b.toNat) * 256 + c.toNat) / 4096 =
      ((a.toNat * 256 + b.toNat) * 256 + c'.toNat) / 4096 := by
    omega
  have htwo : (quantum a b c).take 2 = (quantum a b c').take 2 := by
    simp only [quantum, List.take_succ_cons, List.take_zero, hfirst, hsecond]
  calc (quantum a b c).take m
      = ((quantum a b c).take 2).take m := by rw [List.take_take, Nat.min_eq_left h]
    _ = ((quantum a b c').take 2).take m := by rw [htwo]
    _ = (quantum a b c').take m := by rw [List.take_take, Nat.min_eq_left h]

/-- One byte decides one character. -/
theorem take_encodeChars_cons (a : UInt8) (rest : Bytes) {m : Nat} (h : m ≤ 1) :
    (encodeChars (a :: rest)).take m = (quantum a 0 0).take m := by
  match rest with
  | [] => rw [encodeChars, List.take_take, Nat.min_eq_left (by omega)]
  | [b] =>
      rw [encodeChars, List.take_take, Nat.min_eq_left (by omega)]
      exact take_quantum_of_le_one a b 0 0 0 h
  | b :: c :: rest =>
      rw [encodeChars, List.take_append_of_le_length (by rw [length_quantum]; omega)]
      exact take_quantum_of_le_one a b 0 c 0 h

/-- Two bytes decide two characters. -/
theorem take_encodeChars_cons_cons (a b : UInt8) (rest : Bytes) {m : Nat} (h : m ≤ 2) :
    (encodeChars (a :: b :: rest)).take m = (quantum a b 0).take m := by
  match rest with
  | [] => rw [encodeChars, List.take_take, Nat.min_eq_left (by omega)]
  | c :: rest =>
      rw [encodeChars, List.take_append_of_le_length (by rw [length_quantum]; omega)]
      exact take_quantum_of_le_two a b c 0 h

/-! ## Texts -/

theorem length_encodeChars (bytes : Bytes) :
    (encodeChars bytes).length = (4 * bytes.length + 2) / 3 := by
  induction bytes using encodeChars.induct with
  | case1 a b c rest ih =>
      rw [encodeChars, List.length_append, length_quantum, ih]
      simp only [List.length_cons]
      omega
  | case2 a b => simp [encodeChars, length_quantum]
  | case3 a => simp [encodeChars, length_quantum]
  | case4 => simp [encodeChars]

/-- Less than a group decides as many characters as it has bytes. -/
theorem take_encodeChars_take_of_lt (bytes : Bytes) {m n : Nat} (hn : n < 3) (h : m ≤ n) :
    (encodeChars (bytes.take n)).take m = (encodeChars bytes).take m := by
  match n, bytes with
  | 0, _ => rw [Nat.le_zero.1 h, List.take_zero, List.take_zero]
  | 1, [] => rw [List.take_nil]
  | 1, a :: rest => exact (take_encodeChars_cons a [] h).trans (take_encodeChars_cons a rest h).symm
  | 2, [] => rw [List.take_nil]
  | 2, [a] => rfl
  | 2, a :: b :: rest =>
      exact (take_encodeChars_cons_cons a b [] h).trans (take_encodeChars_cons_cons a b rest h).symm

/-- As many characters as have all their bits in the first bytes are the same, whatever follows. -/
theorem take_encodeChars_take : ∀ (bytes : Bytes) {m n : Nat}, 3 * m ≤ 4 * n →
    (encodeChars (bytes.take n)).take m = (encodeChars bytes).take m
  | bytes, _, 0, h => take_encodeChars_take_of_lt bytes (by omega) (by omega)
  | bytes, _, 1, h => take_encodeChars_take_of_lt bytes (by omega) (by omega)
  | bytes, _, 2, h => take_encodeChars_take_of_lt bytes (by omega) (by omega)
  | a :: b :: c :: rest, m, n + 3, h => by
      -- the first group is there as a whole, and what is cut is the rest
      have hrest : (encodeChars (rest.take n)).take (m - 4) = (encodeChars rest).take (m - 4) :=
        take_encodeChars_take rest (by omega)
      simp only [List.take_succ_cons, encodeChars, List.take_append, length_quantum, hrest]
  | [_, _], _, _ + 3, _ => rfl
  | [_], _, _ + 3, _ => rfl
  | [], _, _ + 3, _ => rfl

/-! ## Characters -/

theorem toNat_digit_lt (n : Nat) : (digit n).toNat < 0x80 := by
  have hupper : ∀ k < 26, (Char.ofNat (0x41 + k)).toNat < 0x80 := by
    decide
  have hlower : ∀ k < 26, (Char.ofNat (0x61 + k)).toNat < 0x80 := by
    decide
  have hfigure : ∀ k < 10, (Char.ofNat (0x30 + k)).toNat < 0x80 := by
    decide
  rw [digit]
  split
  · exact hupper n ‹_›
  · split
    · exact hlower (n - 26) (by omega)
    · split
      · exact hfigure (n - 52) (by omega)
      · split <;> decide

theorem toNat_lt_of_mem_quantum {a b c : UInt8} {d : Char} (h : d ∈ quantum a b c) :
    d.toNat < 0x80 := by
  simp only [quantum, List.mem_cons, List.not_mem_nil, or_false] at h
  rcases h with rfl | rfl | rfl | rfl
  all_goals exact toNat_digit_lt _

theorem toNat_lt_of_mem_encodeChars {bytes : Bytes} {d : Char} (h : d ∈ encodeChars bytes) :
    d.toNat < 0x80 := by
  induction bytes using encodeChars.induct with
  | case1 a b c rest ih =>
      rw [encodeChars] at h
      rcases List.mem_append.1 h with hgroup | hrest
      · exact toNat_lt_of_mem_quantum hgroup
      · exact ih hrest
  | case2 a b =>
      rw [encodeChars] at h
      exact toNat_lt_of_mem_quantum (List.mem_of_mem_take h)
  | case3 a =>
      rw [encodeChars] at h
      exact toNat_lt_of_mem_quantum (List.mem_of_mem_take h)
  | case4 => cases h

end Base64

end RestTemplates
