import RestTemplates.Text.Unprintable

/-!
# Quoted — text between double quotes

Error messages quote the texts that they speak of.  A quote, a backslash and the common controls
have short escapes; every other unprintable character is spelled as its hexadecimal number in
braces; all else stands for itself.
-/

namespace RestTemplates

namespace Quoted

/-- The digits of a code point, lower case and without leading zeros. -/
def hexDigits (n : Nat) : List Char := Nat.toDigits 16 n

def escape (c : Char) : List Char :=
  if c = '"' then ['\\', '"']
  else if c = '\\' then ['\\', '\\']
  else if c = '\n' then ['\\', 'n']
  else if c = '\r' then ['\\', 'r']
  else if c = '\t' then ['\\', 't']
  else if c = '\x00' then ['\\', '0']
  else if ' ' ≤ c ∧ c ≤ '~' then [c]
  else if Unprintable.contains c then ['\\', 'u', '\x7b'] ++ hexDigits c.toNat ++ ['\x7d']
  else [c]

/-- The text in double quotes. -/
def quote (text : String) : String := String.ofList ('"' :: text.toList.flatMap escape ++ ['"'])

/-- A list of texts, each quoted, in square brackets. -/
def list (texts : List String) : String := "[" ++ ", ".intercalate (texts.map quote) ++ "]"

/-- A set of texts, each quoted, in braces. -/
def set (texts : List String) : String := "\x7b" ++ ", ".intercalate (texts.map quote) ++ "\x7d"

/-- An optional value: `None`, or `Some` around the shown value. -/
def option {α : Type} (describe : α → String) : Option α → String
  | none => "None"
  | some value => "Some(" ++ describe value ++ ")"

end Quoted

end RestTemplates
