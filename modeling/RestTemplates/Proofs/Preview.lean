import Mathlib.Algebra.Group.Nat.Defs
import RestTemplates.Diagnostics.Preview
import RestTemplates.Proofs.Base64
import RestTemplates.Proofs.Text.Pieces

/-!
# Previews — cutting the bytes first is not seen

A preview is made of a front of the body, and the ellipsis is set in two places: where characters of
that front are left out, and where bytes behind it are.  The front is long enough to decide every
character that is shown, so the preview is the body shown in full and cut afterwards.  Where the
front has just as many characters as are shown, the second place sets the ellipsis; it looks at the
last character, which then is no ellipsis of the body itself.

This file defines:

* `Preview.whole`, a body shown in full,
* `Preview.Decides`, a front that decides the first characters of a body.

It proves:

* `decides_text` and `decides_binary`, which fronts do,
* `chars_eq_shorten`, where the bytes are cut is not seen,
* `previewed_exactly`, what a preview is of the body shown in full.
-/

namespace RestTemplates

namespace Preview

/-- A body shown in full. -/
def whole (format : BodyFormat) (bytes : Bytes) : String :=
  match format with
  | .text => Utf8.decodeLossy bytes
  | .binary => Base64.encode bytes

theorem toList_whole (format : BodyFormat) (bytes : Bytes) :
    (whole format bytes).toList = render format bytes := by
  cases format with
  | text => rfl
  | binary => exact String.toList_ofList

/-! ## Fronts -/

/-- The first characters of a body are those of a front of it, though the body has more. -/
structure Decides (format : BodyFormat) (front bytes : Bytes) (maxChars : Nat) : Prop where
  shown : (render format front).take maxChars = (render format bytes).take maxChars
  longer : maxChars < (render format bytes).length
  /-- Where no character of the front is left out, none of them is an ellipsis. -/
  marked : maxChars < (render format front).length ∨ '…' ∉ render format front

variable {front rest : Bytes} {maxChars : Nat}

theorem render_text (bytes : Bytes) :
    render .text bytes = (Utf8.pieces bytes).map Utf8.Piece.charLossy :=
  String.toList_ofList

/-- An ellipsis has three bytes. -/
theorem ellipsis_not_mem (h : ∀ piece ∈ Utf8.pieces front, piece.width = 4) :
    '…' ∉ render .text front := by
  intro hmem
  rw [render_text] at hmem
  rcases List.mem_map.1 hmem with ⟨piece, hpiece, hchar⟩
  have hwidth := h piece hpiece
  cases piece with
  | scalar c =>
      cases hchar
      exact absurd hwidth (by decide)
  | invalid width => cases hchar
  | truncated width => cases hchar

/-- No piece of a text is longer than four bytes. -/
theorem decides_text (hfront : front.length = 4 * maxChars) (hrest : rest ≠ []) :
    Decides .text front (front ++ rest) maxChars := by
  have hpos : 0 < rest.length := List.length_pos_iff.2 hrest
  obtain ⟨whole, cut, more, hpieces, hall, hlength⟩ := Utf8.exists_pieces_append front rest
  refine ⟨?_, ?_, ?_⟩
  · -- the pieces that the front shares with the body are enough
    have henough : maxChars ≤ (whole.map Utf8.Piece.charLossy).length := by
      rw [List.length_map]
      omega
    rw [render_text, render_text, hpieces, hall, List.map_append, List.map_append,
      List.take_append_of_le_length henough, List.take_append_of_le_length henough]
  · have hbytes := Utf8.length_le_pieces (front ++ rest)
    rw [List.length_append] at hbytes
    rw [render_text, List.length_map]
    omega
  · by_cases hcount : maxChars < (render .text front).length
    · exact .inl hcount
    · refine .inr (ellipsis_not_mem fun piece hpiece => ?_)
      rw [render_text, List.length_map] at hcount
      exact Utf8.width_eq_of_mem_pieces (by omega) hpiece

/-- Four characters of Base64 show three bytes. -/
theorem decides_binary (hfront : front.length = (3 * maxChars + 3) / 4) (hrest : rest ≠ []) :
    Decides .binary front (front ++ rest) maxChars := by
  have hpos : 0 < rest.length := List.length_pos_iff.2 hrest
  refine ⟨?_, ?_, ?_⟩
  · have hbits : 3 * maxChars ≤ 4 * front.length := by omega
    have htake := Base64.take_encodeChars_take (front ++ rest) hbits
    rwa [List.take_left] at htake
  · rw [render, Base64.length_encodeChars, List.length_append]
    omega
  · refine .inr fun hmem => ?_
    exact absurd (Base64.toNat_lt_of_mem_encodeChars hmem) (by decide)

/-! ## Windows -/

/-- A window that is shorter than a body in memory is no product that was cut short. -/
theorem window_text {n : Nat} (hn : n < 2 ^ 62) (hpos : 0 < maxChars)
    (h : window .text maxChars < n) : window .text maxChars = 4 * maxChars := by
  simp only [window, wordMax] at h ⊢
  omega

theorem window_binary {n : Nat} (hn : n < 2 ^ 62) (hpos : 0 < maxChars)
    (h : window .binary maxChars < n) : window .binary maxChars = (3 * maxChars + 3) / 4 := by
  simp only [window, wordMax] at h ⊢
  omega

theorem decides_window {bytes : Bytes} (hn : bytes.length < 2 ^ 62) (hpos : 0 < maxChars)
    (format : BodyFormat) (h : window format maxChars < bytes.length) :
    Decides format (bytes.take (window format maxChars)) bytes maxChars := by
  have hlength : (bytes.take (window format maxChars)).length = window format maxChars :=
    List.length_take_of_le (Nat.le_of_lt h)
  have hrest : bytes.drop (window format maxChars) ≠ [] := by
    rw [Ne, List.drop_eq_nil_iff]
    omega
  have hsplit := List.take_append_drop (window format maxChars) bytes
  cases format with
  | text =>
      have hdecides := decides_text (hlength.trans (window_text hn hpos h)) hrest
      rwa [hsplit] at hdecides
  | binary =>
      have hdecides := decides_binary (hlength.trans (window_binary hn hpos h)) hrest
      rwa [hsplit] at hdecides

/-! ## Previews -/

theorem shorten_of_le {shown : List Char} (h : shown.length ≤ maxChars) :
    shorten shown maxChars = shown := by
  rw [shorten, if_neg (Nat.not_lt.2 h), List.append_nil, List.take_of_length_le h]

theorem shorten_of_lt {shown : List Char} (h : maxChars < shown.length) :
    shorten shown maxChars = shown.take maxChars ++ ['…'] := by
  rw [shorten, if_pos h]

/-- Cutting the bytes first and the characters afterwards is cutting the characters alone. -/
theorem chars_eq_shorten {bytes : Bytes} (hn : bytes.length < 2 ^ 62) (hpos : 0 < maxChars)
    (format : BodyFormat) :
    chars format bytes maxChars = shorten (render format bytes) maxChars := by
  rw [chars, if_neg (Nat.ne_of_gt hpos)]
  dsimp only
  by_cases hwindow : window format maxChars < bytes.length
  · have hdecides := decides_window hn hpos format hwindow
    generalize hfront : bytes.take (window format maxChars) = front at hdecides
    have hcut : front.length < bytes.length := by
      rw [← hfront, List.length_take]
      omega
    rw [shorten_of_lt hdecides.longer, ← hdecides.shown]
    by_cases hcount : maxChars < (render format front).length
    · -- the characters tell that there are more, and the bytes need not
      rw [shorten_of_lt hcount, if_neg]
      simp
    · -- the characters of the front are all shown, and none of them is an ellipsis
      have hplain : '…' ∉ render format front := hdecides.marked.resolve_left hcount
      have hall : (render format front).take maxChars = render format front :=
        List.take_of_length_le (Nat.le_of_not_lt hcount)
      have hlast : (render format front).getLast? ≠ some '…' :=
        fun heq => hplain (List.mem_of_getLast? heq)
      rw [shorten_of_le (Nat.le_of_not_lt hcount), if_pos ⟨hcut, hlast⟩, hall]
  · have hall : bytes.take (window format maxChars) = bytes :=
      List.take_of_length_le (Nat.le_of_not_lt hwindow)
    rw [hall, if_neg fun h => Nat.lt_irrefl _ h.1]

/-- A preview is the body shown in full, if that has no more characters than are allowed, and else
the characters allowed with one ellipsis behind them.  That only a front of the bytes is looked at
makes no difference. -/
theorem previewed_exactly {bytes : Bytes} (hn : bytes.length < 2 ^ 62) (format : BodyFormat)
    (maxChars : Nat) :
    text format bytes maxChars =
      if maxChars = 0 then ""
      else if (whole format bytes).length ≤ maxChars then whole format bytes
      else String.ofList ((whole format bytes).toList.take maxChars) ++ "…" := by
  by_cases hzero : maxChars = 0
  · rw [if_pos hzero, text, chars, if_pos hzero, String.ofList_nil]
  · rw [if_neg hzero, text, chars_eq_shorten hn (Nat.pos_of_ne_zero hzero), ← toList_whole,
      ← String.length_toList]
    by_cases hcount : (whole format bytes).toList.length ≤ maxChars
    · rw [if_pos hcount, shorten_of_le hcount, String.ofList_toList]
    · rw [if_neg hcount, shorten_of_lt (Nat.lt_of_not_le hcount), String.ofList_append]

/-- One window has just as many characters as are allowed, and the other ends with an ellipsis of
the text itself. -/
theorem windows_previewed :
    (Utf8.encode "😀😀x").length < 2 ^ 62 ∧ text .text (Utf8.encode "😀😀x") 2 = "😀😀…" ∧
      (Utf8.encode "…………😀").length < 2 ^ 62 ∧ text .text (Utf8.encode "…………😀") 3 = "…………" := by
  have hfaces : (Utf8.encode "😀😀x").length < 2 ^ 62 := by
    decide
  have hdots : (Utf8.encode "…………😀").length < 2 ^ 62 := by
    decide
  refine ⟨hfaces, ?_, hdots, ?_⟩
  · rw [previewed_exactly hfaces .text 2, whole, Utf8.decodeLossy_encode]
    decide
  · rw [previewed_exactly hdots .text 3, whole, Utf8.decodeLossy_encode]
    decide

end Preview

end RestTemplates
