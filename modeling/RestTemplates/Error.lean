import RestTemplates.Http.Header
import RestTemplates.Http.Status
import RestTemplates.Json.Error
import RestTemplates.Template.Error
import RestTemplates.Url.Host

/-!
# Client errors — why a request fails

This file defines:

* the causes `HostFault`, `TransportError`, `EncodingError` and `DecodeError`,
* `ClientError` with its texts, its causes `sources` and its `root`,
* `ClientError.tag`, which names the operation that failed, once.
-/

namespace RestTemplates

/-! ## Causes -/

/-- Why a text cannot be the host of a client. -/
inductive HostFault
  | empty
  | containsScheme
  | containsWhitespace
  | containsSlash
  | containsDelimiter (c : Char)
  deriving DecidableEq, Repr

def HostFault.text : HostFault → String
  | .empty => "Empty"
  | .containsScheme => "ContainsScheme"
  | .containsWhitespace => "ContainsWhitespace"
  | .containsSlash => "ContainsSlash"
  | .containsDelimiter c => "ContainsDelimiter('" ++ String.singleton c ++ "')"

/-- What a transport says about its failure. -/
structure TransportError where
  message : String
  deriving DecidableEq, Repr

/-- What an encoder says about its failure. -/
structure EncodingError where
  message : String
  deriving DecidableEq, Repr

/-- Why a body does not decode. -/
inductive DecodeError
  | text (error : Utf8.Error)
  | json (error : JsonError)
  deriving DecidableEq, Repr

def DecodeError.message : DecodeError → String
  | .text error => error.message
  | .json error => error.message

/-! ## Errors -/

inductive ClientError
  | resolution (error : ResolutionError)
  | invalidHost (host : String) (fault : HostFault)
  | invalidUrl (error : UrlError)
  | transport (error : TransportError)
  /-- A status outside 200 to 299, with the start of the body. -/
  | httpStatus (status : Status) (headers : Headers) (body : String)
  | decode (source : DecodeError) (body : String)
  /-- A response to HEAD has no body to decode. -/
  | headHasNoContent (operation : String)
  /-- A response of this status has no body to decode. -/
  | statusHasNoContent (operation : String) (status : Status)
  /-- A body that could not be encoded. -/
  | encoding (error : EncodingError)
  | inOperation (operation : String) (source : ClientError)
  deriving DecidableEq

namespace ClientError

def message : ClientError → String
  | .resolution error => error.message
  | .invalidHost host fault => "invalid host " ++ Quoted.quote host ++ ": " ++ fault.text
  | .invalidUrl error => "build url error: " ++ error.message
  | .transport error => "transport: " ++ error.message
  | .httpStatus status _ _ => "status " ++ status.text
  | .decode source _ => "decode error: " ++ source.message
  | .headHasNoContent operation =>
    "HEAD response requires the NoContent decoder (operation=" ++ operation ++ ")"
  | .statusHasNoContent operation status =>
    "status " ++ status.text ++
      " has no content; operation must use the NoContent decoder (operation=" ++ operation ++ ")"
  | .encoding error => "codec: " ++ error.message
  | .inOperation operation source => "in operation " ++ operation ++ ": " ++ source.message

/-- The texts of the causes, from the nearest to the last.  The failure of a transport has a cause
with the same text. -/
def sources : ClientError → List String
  | .resolution error => [error.source.message]
  | .invalidUrl error => [error.message]
  | .transport error => [error.message, error.message]
  | .decode source _ => [source.message]
  | .encoding error => [error.message]
  | .inOperation _ source => source.message :: source.sources
  | _ => []

/-- Names the operation of an error that names none. -/
def tag (operation : String) : ClientError → ClientError
  | .inOperation named source => .inOperation named source
  | e => .inOperation operation e

/-- The error without the operations around it. -/
def root : ClientError → ClientError
  | .inOperation _ source => source.root
  | e => e

def resolution? (e : ClientError) : Option ResolutionError :=
  match e.root with
  | .resolution error => some error
  | _ => none

def status? (e : ClientError) : Option Status :=
  match e.root with
  | .httpStatus status _ _ => some status
  | _ => none

end ClientError

end RestTemplates
