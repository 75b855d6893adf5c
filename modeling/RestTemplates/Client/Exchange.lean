import RestTemplates.Client.Basic
import RestTemplates.Transport.Basic

/-!
# Exchange — what a client makes of an answer

An exchange is decided by the request and the answer of the transport.  A status outside 200 to 299
is an error with the start of the body; a body that breaks off is an error of the transport, and
then nothing is reported of the response.

This file defines:

* `Exchange`, a result with its diagnostics, and `Exchange.of`,
* `Decoder.read`, which decodes the body of a response.
-/

namespace RestTemplates

/-- A request that is sent: how much of it is reported, and how its bodies are shown. -/
structure Sending where
  request : Request
  level : DebugLevel
  requestFormat : BodyFormat
  responseFormat : BodyFormat

/-- What comes of a request that was sent. -/
structure Exchange where
  result : Except ClientError (Response Bytes)
  diagnostics : List Diagnostic

namespace Exchange

/-- The greatest number of characters of a body in diagnostics. -/
def maxChars : Nat := 32768

/-- The start of a request, its headers, and its body if it has one. -/
def requestDiagnostics (s : Sending) : List Diagnostic :=
  let info := s.request.info
  [.requestStart s.level info.method s.request.url.text info.operation info.attempt,
    .requestHeaders s.level s.request.headers] ++
  s.request.body.toList.map fun body => .requestBody s.level body s.requestFormat maxChars

def successDiagnostics (s : Sending) (incoming : Incoming) (body : Bytes) : List Diagnostic :=
  [.responseStatus s.level incoming.status s.request.url.text true,
    .responseHeaders s.level incoming.headers,
    .responseBody s.level body s.responseFormat maxChars]

def failureDiagnostics (s : Sending) (incoming : Incoming) (preview : Bytes) : List Diagnostic :=
  [.responseStatus s.level incoming.status s.request.url.text false,
    .responseHeaders s.level incoming.headers,
    .responseBodyPreview s.level incoming.headers preview incoming.contentLength]

def response (s : Sending) (incoming : Incoming) (body : Bytes) : Response Bytes :=
  { info := s.request.info
    url := s.request.url
    status := incoming.status
    headers := incoming.headers
    body }

/-- The error of a status outside 200 to 299. -/
def statusError (incoming : Incoming) (preview : Bytes) : ClientError :=
  .httpStatus incoming.status incoming.headers
    (BodyText.describe incoming.headers preview incoming.contentLength)

/-- What the transport delivered, with the diagnostics of it. -/
def receive (s : Sending) (incoming : Incoming) :
    Except TransportError (Except ClientError (Response Bytes) × List Diagnostic) :=
  if incoming.status.isSuccess then
    incoming.body.readAll.map fun body =>
      (.ok (response s incoming body), successDiagnostics s incoming body)
  else
    (incoming.body.readPreview BodyText.limit).map fun preview =>
      (.error (statusError incoming preview), failureDiagnostics s incoming preview)

/-- The exchange of a request and the answer to it. -/
def of (s : Sending) (answer : Except TransportError Incoming) : Exchange :=
  match answer.bind (receive s) with
  | .ok (result, received) =>
    ⟨result, Diagnostic.shownAt s.level (requestDiagnostics s ++ received)⟩
  | .error e => ⟨.error (.transport e), Diagnostic.shownAt s.level (requestDiagnostics s)⟩

end Exchange

/-! ## Decoding -/

/-- The response with its body decoded.  A response to HEAD and one of a status without content are
read only by the decoder for no content, which accepts every body. -/
def Decoder.read {α : Type} (decoder : Decoder α) (r : Response Bytes) :
    Except ClientError (Response α) :=
  if r.info.method = .head ∧ !decoder.codec.hasNoContent then
    .error (.headHasNoContent r.info.operation)
  else if r.status.hasNoContent ∧ !decoder.codec.hasNoContent then
    .error (.statusHasNoContent r.info.operation r.status)
  else
    match decoder.decode r.body with
    | .ok body =>
      .ok { info := r.info, url := r.url, status := r.status, headers := r.headers, body }
    | .error e => .error (.decode e (BodyText.describe r.headers r.body none))

end RestTemplates
