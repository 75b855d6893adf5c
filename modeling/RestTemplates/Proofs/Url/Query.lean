import RestTemplates.Proofs.Query
import RestTemplates.Url.Basic

/-!
# URL queries — a written query is set as it is

A URL escapes the characters that its query cannot hold.  A query in the form-urlencoded format has
none of them: all that it holds beside letters, digits and `*`, `-`, `.`, `_` are percent signs,
plus signs and the two separators.  So setting it changes nothing, and the decoded pairs of the URL
are the pairs that were written.

This module proves:

* `isQueryChar_of_mem_encode`, the characters of a written list of pairs need no escape,
* `setQuery_encode`, so a written list of pairs is set as it is.
-/

namespace RestTemplates

namespace Url

/-! ## Characters -/

/-- The characters that a query holds as they are. -/
def IsQueryChar (c : Char) : Prop := c.toNat < 0x80 ∧ isQueryByte (UInt8.ofNat c.toNat) = true

instance (c : Char) : Decidable (IsQueryChar c) :=
  inferInstanceAs (Decidable (_ ∧ _))

theorem isQueryChar_hexDigit : ∀ n < 16, IsQueryChar (Percent.hexDigit n) := by
  decide

theorem isQueryByte_of_isKept : ∀ b, Form.isKept b = true → isQueryByte b = true := by
  refine Percent.forall_byte ?_
  decide +kernel

theorem isQueryChar_of_isKept {b : UInt8} (h : Form.isKept b = true) :
    IsQueryChar (Char.ofNat b.toNat) := by
  have hlow := (Form.isKept_bounds b h).1
  have hnum := Utf8.toNat_ofNat_of_ascii b.toNat hlow
  refine ⟨by omega, ?_⟩
  rw [hnum, UInt8.ofNat_toNat]
  exact isQueryByte_of_isKept b h

theorem isQueryChar_of_mem_encode {pairs : List (String × String)} {c : Char}
    (h : c ∈ (Form.encode pairs).toList) : IsQueryChar c := by
  rcases Form.mem_encode h with rfl | rfl | ⟨b, hb⟩
  · decide
  · decide
  · rcases Form.mem_encodeByte hb with rfl | rfl | ⟨n, hn, rfl⟩ | ⟨hkept, rfl⟩
    · decide
    · decide
    · exact isQueryChar_hexDigit n hn
    · exact isQueryChar_of_isKept hkept

theorem isSkipped_of_isQueryChar {c : Char} (h : IsQueryChar c) : UrlPath.isSkipped c = false := by
  have hquery := h.2
  refine Bool.eq_false_iff.2 ?_
  intro hskipped
  simp only [UrlPath.isSkipped, Bool.or_eq_true, decide_eq_true_eq] at hskipped
  rcases hskipped with (rfl | rfl) | rfl
  all_goals exact absurd hquery (by decide)

/-! ## Setting a query -/

theorem encodePart_of_isQueryChar {cs : List Char} (h : ∀ c ∈ cs, IsQueryChar c) :
    encodePart isQueryByte cs = String.ofList cs := by
  have hfilter : cs.filter (fun c => !UrlPath.isSkipped c) = cs := by
    refine List.filter_eq_self.2 ?_
    intro c hc
    rw [isSkipped_of_isQueryChar (h c hc)]
    rfl
  rw [encodePart, hfilter, Percent.encode_of_kept h]

/-- A written list of pairs is set as it is. -/
theorem setQuery_encode (u : Url) (pairs : List (String × String)) :
    u.setQuery (some (Form.encode pairs)) = { u with query := some (Form.encode pairs) } := by
  have hpart : encodePart isQueryByte (Form.encode pairs).toList = Form.encode pairs := by
    rw [encodePart_of_isQueryChar fun c hc => isQueryChar_of_mem_encode hc, String.ofList_toList]
  rw [setQuery, Option.map_some, hpart]

end Url

end RestTemplates
