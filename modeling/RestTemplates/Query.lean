import RestTemplates.Form
import RestTemplates.MultiMap
import RestTemplates.Template.Error

/-!
# Query — the query part of a URL as a map

A query is read strictly: every `%` must begin an escape, and the bytes of a key or value must be
UTF-8.  It is written in the form-urlencoded format with its keys in order, so equal queries have
equal texts.

This file defines:

* `Query` and `MergePolicy`,
* `Query.parse`, `Query.encode` and `Query.merge`.
-/

namespace RestTemplates

/-- How the values given for one call combine with those of the template. -/
inductive MergePolicy
  /-- The values of the call replace those that the template has for the key. -/
  | replace
  /-- The values of the call follow those that the template has for the key. -/
  | append
  deriving DecidableEq, Repr, Inhabited

/-- A query: each key with its values. -/
abbrev Query := MultiMap String

namespace Query

/-! ## Reading -/

/-- The text that a written key or value stands for.  A `%` that begins no escape is found before
bytes that are no UTF-8. -/
def decodeComponent (component : List Char) : Except QueryFault String :=
  if Percent.wellFormed (Utf8.encode (String.ofList component)) then
    match Utf8.decode? (Form.decodeBytes component) with
    | some text => .ok text
    | none => .error .invalidUtf8
  else .error .invalidEscape

def decodePair (pair : List Char × List Char) : Except QueryFault (String × String) := do
  let key ← decodeComponent pair.1
  let value ← decodeComponent pair.2
  return (key, value)

/-- Reads a query; the first faulty component decides, keys before their values. -/
def parse (raw : String) : Except TemplateError Query :=
  match (Form.splitPairs raw).mapM decodePair with
  | .ok pairs => .ok (MultiMap.ofPairs pairs)
  | .error fault => .error (.malformedQuery raw fault)

/-! ## Writing -/

def encode (q : Query) : String := Form.encode q.pairs

/-! ## Merging -/

/-- The values of a key that the template and the call both have. -/
def combine : MergePolicy → List String → List String → List String
  | .replace, _, given => given
  | .append, own, given => own ++ given

def merge (policy : MergePolicy) (q overrides : Query) : Query :=
  q.mergeWith (combine policy) overrides

end Query

end RestTemplates
