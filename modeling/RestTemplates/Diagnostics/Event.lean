import RestTemplates.Diagnostics.Basic
import RestTemplates.Diagnostics.BodyText
import RestTemplates.Template.Cache

/-!
# Events — reports as structured records

An event has a severity, the part of the library that it comes from, a message, and named fields,
which are numbers or texts.
-/

namespace RestTemplates

inductive Severity
  | trace
  | debug
  | warn
  deriving DecidableEq, Repr

/-- The part of the library that an event comes from. -/
inductive EventOrigin
  | cache
  | diagnostics
  | messages
  deriving DecidableEq, Repr

inductive EventValue
  | number (n : Nat)
  | text (s : String)
  deriving DecidableEq, Repr

structure Event where
  severity : Severity
  origin : EventOrigin
  message : String
  fields : List (String × EventValue)
  deriving DecidableEq, Repr

/-! ## Events of the cache -/

def TemplateCache.Event.toEvent : TemplateCache.Event → RestTemplates.Event
  | .hit raw => ⟨.trace, .cache, "template cache hit", [("template", .text raw)]⟩
  | .rejected raw error =>
    ⟨.debug, .cache, "template rejected", [("template", .text raw), ("error", .text error.message)]⟩
  | .stored raw entries =>
    ⟨.trace, .cache, "template cached", [("template", .text raw), ("entries", .number entries)]⟩

/-! ## Events of an exchange -/

namespace Diagnostic

def headerEvents (message : String) (headers : Headers) : List Event :=
  (Headers.shown headers).map fun header =>
    ⟨.trace, .diagnostics, message, [("header", .text header.1), ("value", .text header.2)]⟩

def bodyEvent (message : String) (body : Bytes) (format : BodyFormat) (maxChars : Nat) : Event :=
  ⟨.trace, .diagnostics, message,
    [("bytes", .number body.length), ("body", .text (Preview.text format body maxChars))]⟩

def events : Diagnostic → List Event
  | .requestStart level method url operation attempt =>
    [⟨.debug, .diagnostics, "request",
      [("level", .text level.text), ("method", .text method.token), ("url", .text url),
        ("operation", .text operation), ("attempt", .number attempt)]⟩]
  | .requestHeaders _ headers => headerEvents "request header" headers
  | .requestBody _ body format maxChars => [bodyEvent "request body" body format maxChars]
  | .responseStatus _ status url ok =>
    [⟨if ok then .debug else .warn, .diagnostics, if ok then "response" else "error response",
      [("status", .number status.code), ("url", .text url)]⟩]
  | .responseHeaders _ headers => headerEvents "response header" headers
  | .responseBody _ body format maxChars => [bodyEvent "response body" body format maxChars]
  | .responseBodyPreview _ headers body fullLength =>
    [⟨.trace, .diagnostics, "error response body",
      [("body", .text (BodyText.describe headers body fullLength))]⟩]

end Diagnostic

end RestTemplates
