import RestTemplates.Client.Draft
import RestTemplates.Config
import RestTemplates.Diagnostics.Sink
import RestTemplates.Request
import RestTemplates.Template.Resolver

/-!
# Client — from drafts to requests

A client stands for one scheme and host.  It resolves templates with a resolver, which it may share
with other clients, and so every operation takes a resolver and gives it back.

This file defines:

* `Client` and `Client.ofConfig`,
* `Client.target`, the URL of a template, and `Client.build`, the request of a draft.
-/

namespace RestTemplates

structure Client where
  config : Config
  base : Url
  level : DebugLevel
  sink : Sink
  deriving DecidableEq

/-- The outcome of building something with a resolver: its result, the resolver after it, and the
report of the cache if it was consulted. -/
structure Build (α : Type) where
  result : Except ClientError α
  resolver : Resolver
  lookup : Option TemplateCache.Event

namespace Client

/-- The client of some settings; it reports to the standard error stream. -/
def ofConfig (config : Config) : Except ClientError Client :=
  config.baseUrl.map fun base => { config, base, level := config.debug, sink := .stderr }

def withSink (c : Client) (sink : Sink) : Client := { c with sink }

/-! ## URLs -/

/-- The base URL with a rendered path and query. -/
def targetUrl (c : Client) (resolved : ResolvedPath) : Url :=
  (c.base.setPath resolved.path).setQuery resolved.queryString?

/-- The URL of a template, under the policy of the resolver. -/
def target (c : Client) (resolver : Resolver) (template : String) (params : PathParams)
    (overrides : Query) : Build Url :=
  let looked := resolver.render template params overrides
  { result := (looked.result.map c.targetUrl).mapError .resolution
    resolver := looked.resolver
    lookup := some looked.event }

/-! ## Requests -/

/-- The headers of a draft over those of the client; the body gives its content type if no header
does. -/
def headersOf (c : Client) (d : Draft) : Headers :=
  let headers := Headers.laidOver d.headers c.config.defaultHeaders
  match d.body.bind (·.contentType) with
  | some value =>
    if headers.contains HeaderName.contentType then headers
    else Headers.set headers HeaderName.contentType value
  | none => headers

/-- The request of a draft whose template is resolved. -/
def requestOf (c : Client) (d : Draft) (resolved : ResolvedPath) : Request where
  info :=
    { operation := d.operationName
      template := d.template
      method := d.method
      attempt := d.attempt }
  url := c.targetUrl resolved
  headers := c.headersOf d
  body := d.body.map (·.bytes)
  timeout := d.timeout.apply c.config.timeout

/-- The request of a draft; without a usable body its template is not even looked up. -/
def build (c : Client) (resolver : Resolver) (d : Draft) : Build Request :=
  match d.encodingFailure with
  | some failure =>
    { result := .error ((ClientError.encoding failure).tag d.operationName)
      resolver, lookup := none }
  | none =>
    let looked :=
      resolver.renderWith d.template d.params d.query (d.policy.getD resolver.policy)
    { result :=
        (looked.result.map (c.requestOf d)).mapError fun e =>
          (ClientError.resolution e).tag d.operationName
      resolver := looked.resolver
      lookup := some looked.event }

end Client

end RestTemplates
