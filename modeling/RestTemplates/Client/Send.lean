import RestTemplates.Client.Exchange

/-!
# Send — requests through a transport

A draft is built and, if that succeeds, handed to the transport once.  Every error names the
operation of the draft.

This file defines:

* `Run`, what a client does with a resolver and a transport,
* `Client.send`, `Client.executeDecoded` and `Client.execute`.
-/

namespace RestTemplates

/-- The outcome of a request: its result, the resolver and the transport after it, the report of the
template cache, and the diagnostics of the exchange. -/
structure Run (σ α : Type) where
  result : Except ClientError α
  resolver : Resolver
  transport : σ
  lookup : Option TemplateCache.Event
  diagnostics : List Diagnostic

/-- Goes on with the result, without another exchange. -/
def Run.andThen {σ α β : Type} (run : Run σ α) (f : α → Except ClientError β) : Run σ β :=
  { run with result := run.result.bind f }

namespace Client

variable {σ α : Type} [Transport σ]

/-- The level of a draft, or else that of the client. -/
def levelOf (c : Client) (d : Draft) : DebugLevel := d.level.getD c.level

def dispatch (c : Client) (resolver : Resolver) (transport : σ) (d : Draft)
    (responseFormat : BodyFormat) : Run σ (Response Bytes) :=
  let built := c.build resolver d
  match built.result with
  | .error e =>
    { result := .error e
      resolver := built.resolver
      transport
      lookup := built.lookup
      diagnostics := [] }
  | .ok request =>
    let sent := Transport.send transport request
    let exchange := Exchange.of ⟨request, c.levelOf d, d.bodyFormat, responseFormat⟩ sent.1
    { result := exchange.result.mapError (ClientError.tag d.operationName)
      resolver := built.resolver
      transport := sent.2
      lookup := built.lookup
      diagnostics := exchange.diagnostics }

/-- Sends the request of a draft; the body of the response is shown as text. -/
def send (c : Client) (resolver : Resolver) (transport : σ) (d : Draft) : Run σ (Response Bytes) :=
  c.dispatch resolver transport d .text

/-- Sends the request of a draft and decodes the response. -/
def executeDecoded (c : Client) (resolver : Resolver) (transport : σ) (d : Draft)
    (decoder : Decoder α) : Run σ (Response α) :=
  (c.dispatch resolver transport (d.accepting decoder.codec) decoder.codec.format).andThen
    fun r => (decoder.read r).mapError (ClientError.tag d.operationName)

/-- Sends the request of a draft for the value of its response. -/
def execute (c : Client) (resolver : Resolver) (transport : σ) (d : Draft) (decoder : Decoder α) :
    Run σ α :=
  (c.executeDecoded resolver transport d decoder).andThen fun r => .ok r.body

end Client

end RestTemplates
