import RestTemplates.Proofs.Dictionary
import RestTemplates.Proofs.Json.Strings

/-!
# JSON objects — written members are read back

A member is written as its key, a colon and its value, and all members but the first stand behind
a comma.  If each value is read back, whatever follows it, so are the members, one after the other;
the comma or the brace behind a value is never taken for a part of it.

This module defines `JsonRead.ReadBack`, documents that are read back at a depth, and proves:

* `JsonRead.members_membersChars`, reading the written members gives each to the step once,
* `JsonRead.value_object`, an object is read with its keys in order,
* `JsonRead.readBack_string` and `JsonRead.readBack_object`,
* `Json.parse_encode`, a document that is read back is what its bytes are the text of.
-/

namespace RestTemplates

namespace Json

/-- A key, a colon and the value. -/
def memberChars (m : String × Json) : List Char := stringChars m.1 ++ ':' :: chars m.2

theorem membersChars_cons (m : String × Json) (ms : List (String × Json)) :
    membersChars (m :: ms) = memberChars m ++ ms.flatMap fun m => ',' :: memberChars m := by
  induction ms generalizing m with
  | nil => rw [membersChars, memberChars, List.flatMap_nil, List.append_nil]
  | cons next ms ih =>
      rw [List.flatMap_cons, List.cons_append, ← ih next]
      simp [membersChars, memberChars]

/-- Every member but the first has its comma. -/
theorem length_le_bytesOf_flatMap (ms : List (String × Json)) :
    ms.length ≤ (bytesOf (ms.flatMap fun m => ',' :: memberChars m)).length := by
  induction ms with
  | nil => exact Nat.zero_le _
  | cons m ms ih =>
      have hcomma : 0 < (String.utf8EncodeChar ',').length := by
        decide
      rw [List.flatMap_cons, bytesOf_append, bytesOf_cons, List.length_append, List.length_append,
        List.length_cons]
      omega

theorem length_le_bytesOf_membersChars (ms : List (String × Json)) :
    ms.length ≤ (bytesOf (membersChars ms)).length + 1 := by
  cases ms with
  | nil => exact Nat.zero_le _
  | cons m ms =>
      have hrest := length_le_bytesOf_flatMap ms
      rw [membersChars_cons, bytesOf_append, List.length_append, List.length_cons]
      omega

end Json

namespace JsonRead

open Json (bytesOf memberChars membersChars)

/-! ## Blanks -/

theorem skipBlank_cons {byte : UInt8} (h : isBlankByte byte = false) (rest : Bytes) :
    skipBlank (byte :: rest) = byte :: rest := by
  rw [skipBlank, List.dropWhile_cons_of_neg (by simp [h])]

/-! ## Members -/

section Members

variable {σ : Type} {step : σ → String → Bytes → Except JsonError (σ × Bytes)}

theorem members_close (isFirst : Bool) (state : σ) {fuel : Bytes} (h : fuel ≠ []) (rest : Bytes) :
    members step fuel isFirst state (Ascii.closeBrace :: rest) = .ok (state, rest) := by
  cases fuel with
  | nil => exact absurd rfl h
  | cons byte fuel =>
      rw [members, skipBlank_cons rfl]
      rfl

theorem members_first {state state' : σ} {key : String} {body after rest : Bytes}
    (hkey : stringBody body = .ok (key, after)) (hstep : step state key after = .ok (state', rest))
    (byte : UInt8) (fuel : Bytes) :
    members step (byte :: fuel) true state (Ascii.quote :: body) =
      members step fuel false state' rest := by
  have hnext : members step (byte :: fuel) true state (Ascii.quote :: body) =
      (stringBody body).bind fun read => (step state read.1 read.2).bind fun stepped =>
        members step fuel false stepped.1 stepped.2 := by
    rw [members, skipBlank_cons rfl]
    rfl
  rw [hnext, hkey, Except.bind, hstep, Except.bind]

theorem members_next {state state' : σ} {key : String} {body after rest : Bytes}
    (hkey : stringBody body = .ok (key, after)) (hstep : step state key after = .ok (state', rest))
    (byte : UInt8) (fuel : Bytes) :
    members step (byte :: fuel) false state (Ascii.comma :: Ascii.quote :: body) =
      members step fuel false state' rest := by
  have hnext : members step (byte :: fuel) false state (Ascii.comma :: Ascii.quote :: body) =
      (stringBody body).bind fun read => (step state read.1 read.2).bind fun stepped =>
        members step fuel false stepped.1 stepped.2 := by
    rw [members, skipBlank_cons rfl]
    rfl
  rw [hnext, hkey, Except.bind, hstep, Except.bind]

/-- The bytes of a member are a quote, its key, a colon and the bytes of its value. -/
theorem exists_body_memberChars (m : String × Json) :
    ∃ body : Bytes,
      (∀ rest, bytesOf (memberChars m) ++ rest =
        Ascii.quote :: (body ++ Ascii.colon :: (bytesOf m.2.chars ++ rest))) ∧
      ∀ rest, stringBody (body ++ rest) = .ok (m.1, rest) := by
  obtain ⟨body, hwritten, hread⟩ := stringBody_stringChars m.1
  refine ⟨body, ?_, hread⟩
  intro rest
  rw [memberChars, Json.bytesOf_append, hwritten, Json.bytesOf_cons]
  simp [String.utf8EncodeChar]

variable {put : σ → String × Json → σ} {ms : List (String × Json)}

/-- The members behind the first one, each after a comma. -/
theorem members_flatMap
    (hstep : ∀ m ∈ ms, ∀ state rest,
      step state m.1 (Ascii.colon :: (bytesOf m.2.chars ++ rest)) = .ok (put state m, rest))
    {fuel : Bytes} (hfuel : ms.length < fuel.length) (state : σ) (rest : Bytes) :
    members step fuel false state
        (bytesOf (ms.flatMap fun m => ',' :: memberChars m) ++ Ascii.closeBrace :: rest) =
      .ok (ms.foldl put state, rest) := by
  induction ms generalizing fuel state with
  | nil => exact members_close false state (List.ne_nil_of_length_pos hfuel) rest
  | cons m ms ih =>
      cases fuel with
      | nil => cases hfuel
      | cons byte fuel =>
          obtain ⟨body, hwritten, hkey⟩ := exists_body_memberChars m
          have hcomma : bytesOf (',' :: memberChars m) =
              Ascii.comma :: bytesOf (memberChars m) := Json.bytesOf_cons ',' _
          rw [List.flatMap_cons, Json.bytesOf_append, hcomma, List.append_assoc, List.cons_append,
            hwritten, members_next (hkey _) (hstep m List.mem_cons_self state _)]
          exact ih (fun other hother => hstep other (List.mem_cons_of_mem _ hother))
            (Nat.lt_of_succ_lt_succ hfuel) (put state m)

/-- All members up to the brace. -/
theorem members_membersChars
    (hstep : ∀ m ∈ ms, ∀ state rest,
      step state m.1 (Ascii.colon :: (bytesOf m.2.chars ++ rest)) = .ok (put state m, rest))
    {fuel : Bytes} (hfuel : ms.length < fuel.length) (state : σ) (rest : Bytes) :
    members step fuel true state (bytesOf (membersChars ms) ++ Ascii.closeBrace :: rest) =
      .ok (ms.foldl put state, rest) := by
  cases ms with
  | nil => exact members_close true state (List.ne_nil_of_length_pos hfuel) rest
  | cons m ms =>
      cases fuel with
      | nil => cases hfuel
      | cons byte fuel =>
          obtain ⟨body, hwritten, hkey⟩ := exists_body_memberChars m
          rw [Json.membersChars_cons, Json.bytesOf_append, List.append_assoc, hwritten,
            members_first (hkey _) (hstep m List.mem_cons_self state _)]
          exact members_flatMap (fun other hother => hstep other (List.mem_cons_of_mem _ hother))
            (Nat.lt_of_succ_lt_succ hfuel) (put state m) rest

end Members

/-! ## Documents -/

/-- A document whose bytes are read back as it is, whatever follows them. -/
def ReadBack (depth : Nat) (json : Json) : Prop :=
  ∀ rest, value depth (bytesOf json.chars ++ rest) = .ok (json, rest)

theorem readBack_string (depth : Nat) (text : String) : ReadBack depth (.string text) := by
  intro rest
  obtain ⟨body, hwritten, hread⟩ := stringBody_stringChars text
  rw [Json.chars, hwritten, value.eq_def, List.cons_append, skipBlank_cons rfl]
  exact congrArg (Except.map fun read : String × Bytes => (Json.string read.1, read.2)) (hread rest)

/-- The step for the members of an object: of the values of one key the last stays. -/
def store (depth : Nat) (found : Dictionary Json) (key : String) (rest : Bytes) :
    Except JsonError (Dictionary Json × Bytes) := do
  let (json, rest) ← value depth (← colon rest)
  return (found.insert key json, rest)

theorem value_openBrace (depth : Nat) (rest : Bytes) :
    value (depth + 1) (Ascii.openBrace :: rest) =
      (members (store depth) (Ascii.openBrace :: rest) true .empty rest).map fun read =>
        (.object read.1.entries, read.2) := by
  rw [value.eq_def, skipBlank_cons rfl]
  rfl

theorem store_of_readBack {depth : Nat} {json : Json} (h : ReadBack depth json)
    (found : Dictionary Json) (key : String) (rest : Bytes) :
    store depth found key (Ascii.colon :: (bytesOf json.chars ++ rest)) =
      .ok (found.insert key json, rest) := by
  have hcolon : colon (Ascii.colon :: (bytesOf json.chars ++ rest)) =
      .ok (bytesOf json.chars ++ rest) := by
    rw [colon, skipBlank_cons rfl]
    rfl
  simp only [store, hcolon, bind, Except.bind, h rest]
  rfl

theorem value_object {depth : Nat} {ms : List (String × Json)} (h : ∀ m ∈ ms, ReadBack depth m.2)
    (rest : Bytes) :
    value (depth + 1) (bytesOf (Json.object ms).chars ++ rest) = .ok (.ofMembers ms, rest) := by
  have hwritten : bytesOf (Json.object ms).chars ++ rest =
      Ascii.openBrace :: (bytesOf (membersChars ms) ++ Ascii.closeBrace :: rest) := by
    rw [Json.chars, List.cons_append, Json.bytesOf_cons, Json.bytesOf_append]
    simp [bytesOf, String.utf8EncodeChar]
  have hfuel : ms.length <
      (Ascii.openBrace :: (bytesOf (membersChars ms) ++ Ascii.closeBrace :: rest)).length := by
    have hcount := Json.length_le_bytesOf_membersChars ms
    simp only [List.length_cons, List.length_append]
    omega
  have hread := members_membersChars
    (fun m hm found rest => store_of_readBack (h m hm) found m.1 rest) hfuel .empty rest
  rw [hwritten, value_openBrace, hread]
  rfl

/-- The keys of an object are in order once it has been read. -/
theorem readBack_object {depth : Nat} {ms : List (String × Json)}
    (hsorted : ms.Pairwise fun a b => a.1 < b.1) (h : ∀ m ∈ ms, ReadBack depth m.2) :
    ReadBack (depth + 1) (.object ms) := by
  intro rest
  rw [value_object h rest, Json.ofMembers]
  have hms : Dictionary.ofList ms = ⟨ms, hsorted⟩ := Dictionary.ofList_toList ⟨ms, hsorted⟩
  rw [hms]

end JsonRead

theorem Json.parse_encode {json : Json} (h : JsonRead.ReadBack JsonRead.depthLimit json) :
    Json.parse json.encode = .ok json := by
  have hread := h []
  rw [List.append_nil] at hread
  rw [parse, encode_eq_bytesOf, hread]
  rfl

end RestTemplates
