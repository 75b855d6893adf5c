import RestTemplates.Diagnostics.Basic
import RestTemplates.Diagnostics.BodyText

/-!
# Diagnostic lines — reports as text

Every report is one line that starts with the level, and header lists have one more line for each
header.
-/

namespace RestTemplates

namespace Diagnostic

def lead (level : DebugLevel) : String := "[stencil:" ++ level.text ++ "] "

def headerLines (level : DebugLevel) (title : String) (headers : Headers) : List String :=
  (lead level ++ title) :: (Headers.shown headers).map fun header =>
    "  " ++ header.1 ++ ": " ++ header.2

def bodyLine (level : DebugLevel) (title : String) (body : Bytes) (format : BodyFormat)
    (maxChars : Nat) : String :=
  lead level ++ title ++ " (" ++ toString body.length ++ " bytes): " ++
    Preview.text format body maxChars

def lines : Diagnostic → List String
  | .requestStart level method url operation attempt =>
    [lead level ++ "-> " ++ method.token ++ " " ++ url ++ " (" ++ operation ++ ")" ++
      (if attempt = 0 then "" else " attempt=" ++ toString attempt)]
  | .requestHeaders level headers => headerLines level "request headers:" headers
  | .requestBody level body format maxChars =>
    [bodyLine level "request body" body format maxChars]
  | .responseStatus level status url ok =>
    [lead level ++ "<- " ++ toString status.code ++ " " ++ url ++
      (if ok then " (ok)" else " (error)")]
  | .responseHeaders level headers => headerLines level "response headers:" headers
  | .responseBody level body format maxChars =>
    [bodyLine level "response body" body format maxChars]
  | .responseBodyPreview level headers body fullLength =>
    [lead level ++ "response body preview: " ++ BodyText.describe headers body fullLength]

/-- The lines of some reports, each with its line end. -/
def textOf (diagnostics : List Diagnostic) : String :=
  String.join ((diagnostics.flatMap lines).map (· ++ "\n"))

end Diagnostic

end RestTemplates
