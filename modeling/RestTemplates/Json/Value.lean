import RestTemplates.Dictionary
import RestTemplates.Json.Number
import RestTemplates.Text.Utf8

/-!
# JSON values — documents and their compact text

The members of an object are kept in the order in which they are written; an object that was read
has its keys in order, each once.

This file defines:

* `Json`, documents, and `Json.text`, their compact text,
* `Json.encode`, the bytes of a document, and `Json.ofEntries`, which fails on keys that are no
  texts.
-/

namespace RestTemplates

inductive Json
  | null
  | bool (b : Bool)
  | number (n : JsonNumber)
  | string (text : String)
  | array (items : List Json)
  | object (members : List (String × Json))
  deriving Repr, Inhabited

namespace Json

/-! ## Text -/

def hexDigit (n : Nat) : Char := Char.ofNat (if n < 10 then 0x30 + n else 0x57 + n)

/-- A quote, a backslash and the controls are escaped, five of the controls by a letter. -/
def escape (c : Char) : List Char :=
  if c = '"' then ['\\', '"']
  else if c = '\\' then ['\\', '\\']
  else if c = '\x08' then ['\\', 'b']
  else if c = '\x0c' then ['\\', 'f']
  else if c = '\n' then ['\\', 'n']
  else if c = '\r' then ['\\', 'r']
  else if c = '\t' then ['\\', 't']
  else if c < ' ' then ['\\', 'u', '0', '0', hexDigit (c.toNat / 16), hexDigit (c.toNat % 16)]
  else [c]

def stringChars (text : String) : List Char := '"' :: text.toList.flatMap escape ++ ['"']

mutual

def chars : Json → List Char
  | .null => ['n', 'u', 'l', 'l']
  | .bool true => ['t', 'r', 'u', 'e']
  | .bool false => ['f', 'a', 'l', 's', 'e']
  | .number n => n.text.toList
  | .string text => stringChars text
  | .array items => '[' :: itemsChars items ++ [']']
  | .object members => '\x7b' :: membersChars members ++ ['\x7d']

def itemsChars : List Json → List Char
  | [] => []
  | [item] => chars item
  | item :: rest => chars item ++ ',' :: itemsChars rest

def membersChars : List (String × Json) → List Char
  | [] => []
  | [(key, value)] => stringChars key ++ ':' :: chars value
  | (key, value) :: rest => stringChars key ++ ':' :: chars value ++ ',' :: membersChars rest

end

def text (json : Json) : String := String.ofList json.chars

def encode (json : Json) : Bytes := Utf8.encode json.text

/-! ## Objects -/

/-- The object of some members: keys in order, the last value of a key counts. -/
def ofMembers (members : List (String × Json)) : Json :=
  .object (Dictionary.ofList members).entries

/-- Why entries make no object. -/
inductive KeyFault
  | notString
  deriving DecidableEq, Repr

def KeyFault.message : KeyFault → String
  | .notString => "key must be a string"

def key? : Json → Except KeyFault String
  | .string text => .ok text
  | _ => .error .notString

/-- The object of entries whose keys may be any documents; only texts are accepted. -/
def ofEntries (entries : List (Json × Json)) : Except KeyFault Json :=
  (entries.mapM fun entry => (key? entry.1).map (·, entry.2)).map .object

end Json

end RestTemplates
