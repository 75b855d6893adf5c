import RestTemplates.Unicode.Canonical
import RestTemplates.Unicode.CombiningClass

/-!
# Normal form — one spelling for equivalent texts

Equivalent texts have one normal form (form C): every character is decomposed, marks are brought
into the order of their classes, and what can be composed is composed.

This file defines:

* `Hangul`, the rule by which syllables are composed of letters,
* `Unicode.decompose`, `Unicode.reorder` and `Unicode.compose`,
* `Unicode.normalize`, the normal form of a text.
-/

namespace RestTemplates

/-! ## Hangul -/

namespace Hangul

def syllable : Nat := 0xAC00

def leading : Nat := 0x1100

def vowel : Nat := 0x1161

/-- One before the first trailing letter; the rest 0 means that there is none. -/
def trailing : Nat := 0x11A7

/-- The letters of a syllable; there are 21 vowels and 28 endings. -/
def letters? (c : Char) : Option (List Char) :=
  let index := c.toNat - syllable
  if c.toNat < syllable ∨ 11172 ≤ index then none
  else
    let start := [Char.ofNat (leading + index / 588), Char.ofNat (vowel + index % 588 / 28)]
    some (if index % 28 = 0 then start else start ++ [Char.ofNat (trailing + index % 28)])

/-- The syllable of a leading letter and a vowel, or of a syllable without ending and an ending. -/
def compose? (first second : Char) : Option Char :=
  let l := first.toNat - leading
  let v := second.toNat - vowel
  let s := first.toNat - syllable
  let t := second.toNat - trailing
  if leading ≤ first.toNat ∧ l < 19 ∧ vowel ≤ second.toNat ∧ v < 21 then
    some (Char.ofNat (syllable + (l * 21 + v) * 28))
  else if syllable ≤ first.toNat ∧ s < 11172 ∧ s % 28 = 0 ∧ 0 < t ∧ t < 28 then
    some (Char.ofNat (first.toNat + t))
  else none

end Hangul

namespace Unicode

/-! ## Decomposition -/

/-- Decomposes a composite, and the first character of its pair as often as the depth allows. -/
def decomposeWithin : Nat → Char → List Char
  | 0, c => [c]
  | depth + 1, c =>
    match composites.find? c.toNat with
    | some (first :: marks) => decomposeWithin depth first ++ marks
    | _ => [c]

/-- The canonical decomposition of a character.  No composite is nested deeper than four levels. -/
def decompose (c : Char) : List Char :=
  match Hangul.letters? c, expansions.find? c.toNat with
  | some letters, _ => letters
  | none, some sequence => sequence
  | none, none => decomposeWithin 4 c

/-! ## Order of marks -/

/-- Each starter with the marks that follow it in the order of their classes; marks of one class
keep their order. -/
def reorder (text : List Char) : List Char :=
  (text.splitBy fun _ c => !isStarter c).flatMap fun sequence =>
    sequence.mergeSort fun a b => combiningClass a ≤ combiningClass b

/-! ## Composition -/

def compose? (first second : Char) : Option Char :=
  match Hangul.compose? first second with
  | some syllable => some syllable
  | none => compositesOfPairs.find? (pairKey first second)

/-- Does the last mark passed over keep the character from the starter? -/
def isBlocked (passed : List Char) (c : Char) : Bool :=
  match passed with
  | [] => false
  | mark :: _ => combiningClass c ≤ combiningClass mark

/-- Composes a starter with what follows it.  The text before the starter and the marks passed over
are held in reverse. -/
def composeFrom (before : List Char) (starter : Char) (passed : List Char) : List Char → List Char
  | [] => (passed ++ starter :: before).reverse
  | c :: rest =>
    match if isBlocked passed c then none else compose? starter c with
    | some composite => composeFrom before composite passed rest
    | none =>
      if isStarter c then composeFrom (passed ++ starter :: before) c [] rest
      else composeFrom before starter (c :: passed) rest

/-- Composes a text in canonical order; marks before the first starter stay as they are. -/
def compose (text : List Char) : List Char :=
  match text.dropWhile fun c => !isStarter c with
  | [] => text
  | starter :: rest => composeFrom (text.takeWhile fun c => !isStarter c).reverse starter [] rest

/-! ## Normal form -/

/-- The normal form of a text. -/
def normalize (text : List Char) : List Char := compose (reorder (text.flatMap decompose))

end Unicode

end RestTemplates
