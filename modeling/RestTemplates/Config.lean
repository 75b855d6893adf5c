import RestTemplates.Diagnostics.Level
import RestTemplates.Duration
import RestTemplates.Error
import RestTemplates.Json.Record
import RestTemplates.Query
import RestTemplates.Text.Blank
import RestTemplates.Url.Basic

/-!
# Config — the settings of a client

A client has a scheme and a host, and defaults for timeout, debug level, merge policy and headers.
The host is a name with an optional port, and nothing else that a URL may hold.

This file defines:

* `Config` and its setters,
* `Config.validate` and `Config.baseUrl`,
* `Config.ofJson`, which reads the settings from a JSON text.
-/

namespace RestTemplates

structure Config where
  scheme : Scheme
  host : String
  timeoutMilliseconds : Option Nat
  debug : DebugLevel
  mergePolicy : MergePolicy
  defaultHeaders : Headers
  deriving DecidableEq

namespace Config

def new (scheme : Scheme) (host : String) : Config :=
  { scheme, host
    timeoutMilliseconds := none
    debug := .none
    mergePolicy := .replace
    defaultHeaders := .empty }

/-! ## Setters -/

/-- Timeouts are kept in milliseconds of 64 bits; what is below is dropped. -/
def withTimeout (c : Config) (d : Duration) : Config :=
  { c with timeoutMilliseconds := some (min d.milliseconds 18446744073709551615) }

def withDebugLevel (c : Config) (level : DebugLevel) : Config := { c with debug := level }

def withMergePolicy (c : Config) (policy : MergePolicy) : Config := { c with mergePolicy := policy }

def withHeader (c : Config) (name : HeaderName) (value : HeaderValue) : Config :=
  { c with defaultHeaders := Headers.set c.defaultHeaders name value }

def timeout (c : Config) : Option Duration := c.timeoutMilliseconds.map Duration.ofMilliseconds

/-! ## The base URL -/

def isDelimiter (c : Char) : Bool := c = '?' || c = '#' || c = '@'

/-- The first fault of a host. -/
def hostFault? (host : String) : Option HostFault :=
  let cs := host.toList
  if cs = [] then some .empty
  else if HeaderName.occursIn "://".toList cs then some .containsScheme
  else if cs.any isBlank then some .containsWhitespace
  else if cs.contains '/' then some .containsSlash
  else (cs.find? isDelimiter).map .containsDelimiter

def validate (c : Config) : Except ClientError Unit :=
  match hostFault? c.host with
  | some fault => .error (.invalidHost c.host fault)
  | none => .ok ()

/-- The URL of scheme and host, to which the paths of requests are added. -/
def baseUrl (c : Config) : Except ClientError Url := do
  c.validate
  (Url.parse c.scheme ("//" ++ c.host)).mapError .invalidUrl

/-! ## JSON -/

def schemes : List (String × Scheme) := [("http", .http), ("https", .https)]

def debugLevels : List (String × DebugLevel) :=
  [("none", .none), ("v", .verbose), ("vv", .veryVerbose)]

def mergePolicies : List (String × MergePolicy) := [("replace", .replace), ("append", .append)]

/-- The settings as a record; only the host has to be given, and headers cannot be. -/
def record : JsonRecord Config where
  name := "struct ClientConfig"
  fields :=
    [ .of "scheme" false (JsonRead.choice schemes) fun c scheme => { c with scheme },
      .of "host" true JsonRead.string fun c host => { c with host },
      .of "timeout_ms" false (JsonRead.optional JsonRead.unsigned) fun c timeout =>
        { c with timeoutMilliseconds := timeout },
      .of "debug" false (JsonRead.choice debugLevels) fun c debug => { c with debug },
      .of "query_merge" false (JsonRead.choice mergePolicies) fun c policy =>
        { c with mergePolicy := policy } ]
  deniesUnknown := true

def ofJson (input : Bytes) : Except JsonError Config := do
  JsonRead.finish (← record.read (new .https "") input)

end Config

end RestTemplates
