import RestTemplates.Diagnostics.Level
import RestTemplates.Diagnostics.Preview
import RestTemplates.Http.Header
import RestTemplates.Http.Method
import RestTemplates.Http.Status

/-!
# Diagnostics — what a client reports of an exchange

Each report has the level from which on it is made; a client makes the reports that its level shows,
in the order of the exchange.

The header lines of a report are shown in the order of their names, and those of one name in the
order in which its values were added.  A header map promises no order among its names, so the order
in which the lines of two names are printed is a choice of this library; which lines there are is
not.

This file defines:

* `Diagnostic`, the reports, and `Diagnostic.shownAt`, those of a level,
* `HeaderValue.shown` and `Headers.shown`, headers with the values of credentials hidden.
-/

namespace RestTemplates

/-- A report, with the level at which the client was asked to report. -/
inductive Diagnostic
  | requestStart (level : DebugLevel) (method : Method) (url operation : String) (attempt : Nat)
  | requestHeaders (level : DebugLevel) (headers : Headers)
  | requestBody (level : DebugLevel) (body : Bytes) (format : BodyFormat) (maxChars : Nat)
  | responseStatus (level : DebugLevel) (status : Status) (url : String) (ok : Bool)
  | responseHeaders (level : DebugLevel) (headers : Headers)
  | responseBody (level : DebugLevel) (body : Bytes) (format : BodyFormat) (maxChars : Nat)
  | responseBodyPreview (level : DebugLevel) (headers : Headers) (body : Bytes)
      (fullLength : Option Nat)
  deriving DecidableEq

namespace Diagnostic

/-- The lowest level that shows the report. -/
def detail : Diagnostic → DebugLevel
  | .requestStart .. => .verbose
  | .responseStatus .. => .verbose
  | _ => .veryVerbose

/-- The reports that a level shows. -/
def shownAt (level : DebugLevel) (diagnostics : List Diagnostic) : List Diagnostic :=
  diagnostics.filter fun d => level.shows d.detail

end Diagnostic

/-- The text of a header value in diagnostics; that of a credential is hidden. -/
def HeaderValue.shown (name : HeaderName) (value : HeaderValue) : String :=
  if HeaderName.isSensitive name then "<redacted>" else (HeaderValue.text? value).getD "<non-utf8>"

/-- The header lines of a message in the order of their names, with their values as shown. -/
def Headers.shown (headers : Headers) : List (HeaderName × String) :=
  headers.pairs.map fun header => (header.1, HeaderValue.shown header.1 header.2)

end RestTemplates
