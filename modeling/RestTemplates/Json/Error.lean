import RestTemplates.Json.Number
import RestTemplates.Text.Quoted

/-!
# JSON errors — why a document is refused

A document is refused because its text is malformed, because it ends too early, or because it does
not have the expected shape; only the last kind has a text of its own.
-/

namespace RestTemplates

inductive JsonError
  | malformed
  | incomplete
  | mismatch (message : String)
  deriving DecidableEq, Repr

/-- A value met where another one was expected. -/
inductive Unexpected
  | null
  | bool (b : Bool)
  | number (n : JsonNumber)
  | string (text : String)
  | sequence
  | map
  deriving DecidableEq, Repr

def Unexpected.describe : Unexpected → String
  | .null => "null"
  | .bool b => "boolean \x60" ++ toString b ++ "\x60"
  | .number (.integer n) => "integer \x60" ++ toString n ++ "\x60"
  | .number n => "floating point \x60" ++ n.text ++ "\x60"
  | .string text => "string " ++ Quoted.quote text
  | .sequence => "sequence"
  | .map => "map"

namespace JsonError

def message : JsonError → String
  | .malformed => "malformed text"
  | .incomplete => "unexpected end of text"
  | .mismatch message => message

def quoteName (name : String) : String := "\x60" ++ name ++ "\x60"

/-- The names that were expected: one, a choice of two, or a list. -/
def oneOf : List String → String
  | [a] => quoteName a
  | [a, b] => quoteName a ++ " or " ++ quoteName b
  | names => "one of " ++ ", ".intercalate (names.map quoteName)

def invalidType (met : Unexpected) (expected : String) : JsonError :=
  .mismatch ("invalid type: " ++ met.describe ++ ", expected " ++ expected)

def invalidValue (met : Unexpected) (expected : String) : JsonError :=
  .mismatch ("invalid value: " ++ met.describe ++ ", expected " ++ expected)

def invalidLength (length : Nat) (expected : String) : JsonError :=
  .mismatch ("invalid length " ++ toString length ++ ", expected " ++ expected)

def missingField (name : String) : JsonError := .mismatch ("missing field " ++ quoteName name)

def duplicateField (name : String) : JsonError := .mismatch ("duplicate field " ++ quoteName name)

def unknownField (name : String) (known : List String) : JsonError :=
  .mismatch ("unknown field " ++ quoteName name ++ ", expected " ++ oneOf known)

def unknownVariant (name : String) (known : List String) : JsonError :=
  .mismatch ("unknown variant " ++ quoteName name ++ ", expected " ++ oneOf known)

end JsonError

end RestTemplates
