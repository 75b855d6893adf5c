import RestTemplates.Base64
import RestTemplates.Http.Header

/-!
# Body text — a response body in an error

An error carries at most 8192 bytes of the response body.  Text and JSON are shown as they are, with
dots at the end if the body goes on; other bodies, and text that is no UTF-8, are described by their
length.
-/

namespace RestTemplates

namespace BodyText

/-- The greatest number of bytes shown. -/
def limit : Nat := 8192

/-- The greatest number of characters of Base64 shown. -/
def base64Limit : Nat := 1024

/-- Is a body of this type text?  No type at all counts as text. -/
def isTextual (contentType : String) : Bool :=
  contentType = "" || "text/".toList.isPrefixOf contentType.toList ||
    "application/json".toList.isPrefixOf contentType.toList

def contentType (headers : Headers) : String := (headers.text? HeaderName.contentType).getD ""

def dots (isCut : Bool) : String := if isCut then "..." else ""

def base64Text (bytes : Bytes) : String :=
  let chars := Base64.encodeChars bytes
  String.ofList (chars.take base64Limit) ++ dots (chars.length > base64Limit)

/-- A body that begins with these bytes; its full length is given if it is known to differ. -/
def describe (headers : Headers) (body : Bytes) (fullLength : Option Nat) : String :=
  let shown := body.take limit
  let total := fullLength.getD body.length
  if isTextual (contentType headers) then
    match Utf8.decode? shown with
    | some text => text ++ dots (total > shown.length)
    | none => "<non-utf8-text; " ++ toString total ++ " bytes>"
  else "<non-text; " ++ toString total ++ " bytes; base64:" ++ base64Text shown ++ ">"

end BodyText

end RestTemplates
