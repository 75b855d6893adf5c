import RestTemplates.Duration
import RestTemplates.Http.Header
import RestTemplates.Http.Method
import RestTemplates.Http.Status
import RestTemplates.Url.Basic

/-!
# Requests and responses — what a transport is given and what a client answers

This file defines:

* `Request`, a request with everything resolved, and `RequestInfo`, what it is called,
* `Response`, the answer to a request, whose body may be bytes or a decoded value.
-/

namespace RestTemplates

/-- What a request is called in errors and diagnostics. -/
structure RequestInfo where
  operation : String
  template : String
  method : Method
  attempt : Nat
  deriving DecidableEq, Repr

def RequestInfo.isIdempotent (info : RequestInfo) : Bool := info.method.isIdempotent

structure Request where
  info : RequestInfo
  url : Url
  headers : Headers
  body : Option Bytes
  timeout : Option Duration
  deriving DecidableEq

structure Response (α : Type) where
  info : RequestInfo
  url : Url
  status : Status
  headers : Headers
  body : α
  deriving DecidableEq

end RestTemplates
