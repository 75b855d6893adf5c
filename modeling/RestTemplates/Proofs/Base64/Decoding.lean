import RestTemplates.Proofs.Base64

/-!
# Reading Base64 — each byte string has one text

Four digits are read as three bytes.  A group of two or three digits at the end stands for one or
two bytes; it is read as if digits of value zero followed, and is refused if this gives a byte other
than zero where none belongs.  So there is no second way to write a byte string, and every text that
is read is one that was written.

This module defines `decode?`, which looks digits up in the alphabet, and proves
`decode?_eq_some_iff`: it reads the written texts and no others.
-/

namespace RestTemplates

namespace Base64

/-! ## Digits -/

/-- The digits in the order of their values. -/
def alphabet : List Char :=
  "ABCDEFGHIJKLMNOPQRSTUVWXYZabcdefghijklmnopqrstuvwxyz0123456789+/".toList

def value? (c : Char) : Option Nat := alphabet.idxOf? c

theorem value?_digit : ∀ n < 64, value? (digit n) = some n := by
  decide

theorem value?_eq_some_iff {c : Char} {n : Nat} : value? c = some n ↔ n < 64 ∧ digit n = c := by
  have hdigit : ∀ n < 64, alphabet[n]? = some (digit n) := by
    decide
  constructor
  · intro h
    obtain ⟨hlt, hc, -⟩ := List.idxOf?_eq_some_iff.1 h
    have hn : n < 64 := hlt
    refine ⟨hn, ?_⟩
    have hget := hdigit n hn
    rw [List.getElem?_eq_getElem hlt, hc] at hget
    exact (Option.some.inj hget).symm
  · rintro ⟨hn, rfl⟩
    exact value?_digit n hn

/-! ## Groups -/

/-- The three bytes of four digits. -/
def readQuantum? (p q r s : Char) : Option (UInt8 × UInt8 × UInt8) := do
  let bits := (((← value? p) * 64 + (← value? q)) * 64 + (← value? r)) * 64 + (← value? s)
  return (UInt8.ofNat (bits / 65536), UInt8.ofNat (bits / 256 % 256), UInt8.ofNat (bits % 256))

/-- The digits of a number of 24 bits, given by its bytes. -/
theorem quantum_ofNat {bits : Nat} (h : bits < 16777216) :
    quantum (UInt8.ofNat (bits / 65536)) (UInt8.ofNat (bits / 256 % 256))
        (UInt8.ofNat (bits % 256)) =
      [digit (bits / 262144), digit (bits / 4096 % 64), digit (bits / 64 % 64),
        digit (bits % 64)] := by
  have hbits : ((bits / 65536 % 256) * 256 + bits / 256 % 256) * 256 + bits % 256 = bits := by
    omega
  simp only [quantum, UInt8.toNat_ofNat', Nat.reducePow, Nat.mod_mod, hbits]

theorem readQuantum?_eq_some_iff {p q r s : Char} {a b c : UInt8} :
    readQuantum? p q r s = some (a, b, c) ↔ quantum a b c = [p, q, r, s] := by
  simp only [readQuantum?, Option.bind_eq_bind, Option.bind_eq_some_iff, value?_eq_some_iff,
    Option.pure_def, Option.some.injEq, Prod.mk.injEq]
  constructor
  · rintro ⟨i, ⟨hi, rfl⟩, j, ⟨hj, rfl⟩, k, ⟨hk, rfl⟩, l, ⟨hl, rfl⟩, rfl, rfl, rfl⟩
    have hfirst : (((i * 64 + j) * 64 + k) * 64 + l) / 262144 = i := by omega
    have hsecond : (((i * 64 + j) * 64 + k) * 64 + l) / 4096 % 64 = j := by omega
    have hthird : (((i * 64 + j) * 64 + k) * 64 + l) / 64 % 64 = k := by omega
    have hfourth : (((i * 64 + j) * 64 + k) * 64 + l) % 64 = l := by omega
    rw [quantum_ofNat (by omega), hfirst, hsecond, hthird, hfourth]
  · intro h
    have ha := a.toNat_lt
    have hb := b.toNat_lt
    have hc := c.toNat_lt
    simp only [quantum, List.cons.injEq, and_true] at h
    obtain ⟨hp, hq, hr, hs⟩ := h
    -- the digits are those of the number whose bytes are given
    let bits := (a.toNat * 256 + b.toNat) * 256 + c.toNat
    have hbits : ((bits / 262144 * 64 + bits / 4096 % 64) * 64 + bits / 64 % 64) * 64 + bits % 64 =
        bits := by
      omega
    refine ⟨_, ⟨by omega, hp⟩, _, ⟨by omega, hq⟩, _, ⟨by omega, hr⟩, _, ⟨by omega, hs⟩, ?_⟩
    have hfirst : bits / 65536 = a.toNat := by omega
    have hsecond : bits / 256 % 256 = b.toNat := by omega
    have hthird : bits % 256 = c.toNat := by omega
    simp only [bits] at hbits hfirst hsecond hthird
    rw [hbits, hfirst, hsecond, hthird]
    simp

/-! ## Texts -/

/-- The bytes that a text stands for, if it is one that is written. -/
def decode? : List Char → Option Bytes
  | p :: q :: r :: s :: rest => do
    let (a, b, c) ← readQuantum? p q r s
    return a :: b :: c :: (← decode? rest)
  | [p, q, r] => do
    let (a, b, c) ← readQuantum? p q r 'A'
    if c = 0 then some [a, b] else none
  | [p, q] => do
    let (a, b, c) ← readQuantum? p q 'A' 'A'
    if b = 0 ∧ c = 0 then some [a] else none
  | [_] => none
  | [] => some []

/-- Where the third byte is zero, the fourth digit has the value zero. -/
theorem exists_quantum_zero (a b : UInt8) : ∃ p q r, quantum a b 0 = [p, q, r, 'A'] := by
  have hfourth : ((a.toNat * 256 + b.toNat) * 256 + (0 : UInt8).toNat) % 64 = 0 := by
    rw [UInt8.toNat_zero]
    omega
  simp only [quantum, hfourth]
  exact ⟨_, _, _, rfl⟩

theorem exists_quantum_zero_zero (a : UInt8) : ∃ p q, quantum a 0 0 = [p, q, 'A', 'A'] := by
  obtain ⟨p, q, r, hquantum⟩ := exists_quantum_zero a 0
  have hthird : ((a.toNat * 256 + (0 : UInt8).toNat) * 256 + (0 : UInt8).toNat) / 64 % 64 = 0 := by
    rw [UInt8.toNat_zero]
    omega
  have hdigit : r = 'A' := by
    simp only [quantum, hthird, List.cons.injEq] at hquantum
    exact hquantum.2.2.1.symm
  exact ⟨p, q, hdigit ▸ hquantum⟩

theorem decode?_encodeChars (bytes : Bytes) : decode? (encodeChars bytes) = some bytes := by
  induction bytes using encodeChars.induct with
  | case1 a b c rest ih =>
      obtain ⟨p, q, r, s, hquantum⟩ : ∃ p q r s, quantum a b c = [p, q, r, s] := ⟨_, _, _, _, rfl⟩
      rw [encodeChars, hquantum]
      simp [decode?, readQuantum?_eq_some_iff.2 hquantum, ih]
  | case2 a b =>
      obtain ⟨p, q, r, hquantum⟩ := exists_quantum_zero a b
      rw [encodeChars, hquantum]
      simp [decode?, readQuantum?_eq_some_iff.2 hquantum]
  | case3 a =>
      obtain ⟨p, q, hquantum⟩ := exists_quantum_zero_zero a
      rw [encodeChars, hquantum]
      simp [decode?, readQuantum?_eq_some_iff.2 hquantum]
  | case4 => rfl

theorem encodeChars_of_decode? {cs : List Char} {bytes : Bytes} (h : decode? cs = some bytes) :
    encodeChars bytes = cs := by
  induction cs using decode?.induct generalizing bytes with
  | case1 p q r s rest ih =>
      rw [decode?] at h
      obtain ⟨⟨a, b, c⟩, hread, hrest⟩ := Option.bind_eq_some_iff.1 h
      obtain ⟨others, hothers, hbytes⟩ := Option.bind_eq_some_iff.1 hrest
      cases hbytes
      rw [encodeChars, readQuantum?_eq_some_iff.1 hread, ih hothers]
      rfl
  | case2 p q r =>
      rw [decode?] at h
      obtain ⟨⟨a, b, c⟩, hread, hzero⟩ := Option.bind_eq_some_iff.1 h
      obtain ⟨rfl, hbytes⟩ := Option.ite_none_right_eq_some.1 hzero
      cases hbytes
      rw [encodeChars, readQuantum?_eq_some_iff.1 hread]
      rfl
  | case3 p q =>
      rw [decode?] at h
      obtain ⟨⟨a, b, c⟩, hread, hzero⟩ := Option.bind_eq_some_iff.1 h
      obtain ⟨⟨rfl, rfl⟩, hbytes⟩ := Option.ite_none_right_eq_some.1 hzero
      cases hbytes
      rw [encodeChars, readQuantum?_eq_some_iff.1 hread]
      rfl
  | case4 p => cases h
  | case5 =>
      cases h
      rfl

/-- Each byte string is read from one text, and this is the one that is written. -/
theorem decode?_eq_some_iff {cs : List Char} {bytes : Bytes} :
    decode? cs = some bytes ↔ encodeChars bytes = cs :=
  ⟨encodeChars_of_decode?, fun h => h ▸ decode?_encodeChars bytes⟩

end Base64

end RestTemplates
