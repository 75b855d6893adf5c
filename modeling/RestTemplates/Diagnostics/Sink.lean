import RestTemplates.Diagnostics.Event
import RestTemplates.Diagnostics.Stderr

/-!
# Sinks — where reports go

A sink turns reports into lines of text, into events, or into one short line for each report.  A
sink of events also sees what the template cache reports, which comes before an exchange begins.
-/

namespace RestTemplates

/-- A report in a few words, without texts of headers and bodies. -/
def Diagnostic.summary : Diagnostic → String
  | .requestStart _ method url operation attempt =>
    "start " ++ method.token ++ " " ++ url ++ " " ++ operation ++ " attempt=" ++ toString attempt
  | .requestHeaders _ headers => "request_headers " ++ toString (Headers.count headers)
  | .requestBody _ body _ _ => "request_body " ++ toString body.length
  | .responseStatus _ status _ ok => "status " ++ toString status.code ++ " ok=" ++ toString ok
  | .responseHeaders _ headers => "response_headers " ++ toString (Headers.count headers)
  | .responseBody _ body _ _ => "response_body " ++ toString body.length
  | .responseBodyPreview _ _ body _ => "response_body_preview " ++ toString body.length

inductive Sink
  | silent
  | stderr
  | events
  | summaries
  /-- The reports themselves. -/
  | reports
  deriving DecidableEq, Repr

/-- What a sink holds after some reports. -/
inductive Log
  | nothing
  | text (s : String)
  | events (es : List Event)
  | summaries (lines : List String)
  | reports (diagnostics : List Diagnostic)
  deriving DecidableEq

def Sink.log (sink : Sink) (lookups : List TemplateCache.Event) (diagnostics : List Diagnostic) :
    Log :=
  match sink with
  | .silent => .nothing
  | .stderr => .text (Diagnostic.textOf diagnostics)
  | .events =>
    .events (lookups.map TemplateCache.Event.toEvent ++ diagnostics.flatMap Diagnostic.events)
  | .summaries => .summaries (diagnostics.map Diagnostic.summary)
  | .reports => .reports diagnostics

end RestTemplates
