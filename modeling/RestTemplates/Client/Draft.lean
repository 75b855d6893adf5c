import RestTemplates.Codec
import RestTemplates.Diagnostics.Level
import RestTemplates.Duration
import RestTemplates.Http.Method
import RestTemplates.Query
import RestTemplates.Template.Path

/-!
# Drafts — requests that are being put together

A draft names a method and a template, and is filled in by calls in any order.  Nothing is checked
while it is filled in: a body that could not be encoded makes the draft fail when it is built.

This file defines:

* `Draft` and `Draft.operationName`,
* `Call`, one step of filling in, and `Draft.apply`,
* `Draft.accepting`, what typed execution adds.
-/

namespace RestTemplates

/-- A body with the content type that it asks for. -/
structure DraftBody where
  bytes : Bytes
  contentType : Option HeaderValue
  format : BodyFormat
  deriving DecidableEq, Repr

structure Draft where
  method : Method
  template : String
  operation : Option String
  params : PathParams
  query : Query
  policy : Option MergePolicy
  headers : Headers
  body : Option DraftBody
  timeout : TimeoutOverride
  level : Option DebugLevel
  attempt : Nat
  encodingFailure : Option EncodingError
  deriving DecidableEq

/-! ## Calls -/

inductive Call
  /-- Binds a placeholder; the last value counts. -/
  | param (name value : String)
  | params (pairs : List (String × String))
  /-- Adds a value to a query key. -/
  | query (key value : String)
  | queryOption (key : String) (value : Option String)
  | policy (policy : MergePolicy)
  /-- Gives a header exactly one value. -/
  | header (name : HeaderName) (value : HeaderValue)
  /-- Adds a value to a header. -/
  | appendHeader (name : HeaderName) (value : HeaderValue)
  | operation (name : String)
  /-- A body in the format of a codec, or the reason why there is none. -/
  | encoded (codec : Codec) (encoding : Except EncodingError Bytes)
  /-- A body as it is. -/
  | body (bytes : Bytes) (contentType : Option HeaderValue)
  | timeout (timeout : TimeoutOverride)
  | level (level : DebugLevel)
  | attempt (count : Nat)

namespace Call

/-- A JSON document as the body. -/
def json (document : Json) : Call := .encoded .json (.ok document.encode)

/-- An object as the body, whose keys have to be texts. -/
def jsonEntries (entries : List (Json × Json)) : Call :=
  .encoded .json (((Json.ofEntries entries).map Json.encode).mapError (⟨·.message⟩))

def text (text : String) : Call := .encoded .text (.ok (Utf8.encode text))

def binary (bytes : Bytes) : Call := .encoded .binary (.ok bytes)

def noContent : Call := .encoded .noContent (.ok [])

end Call

namespace Draft

def new (method : Method) (template : String) : Draft :=
  { method, template
    operation := none
    params := .empty
    query := .empty
    policy := none
    headers := .empty
    body := none
    timeout := .inherit
    level := none
    attempt := 0
    encodingFailure := none }

/-- What the request is called: its operation, or else its template. -/
def operationName (d : Draft) : String := d.operation.getD d.template

/-! ## Filling in -/

/-- A later encoding failure takes the place of an earlier one; no later body takes it back. -/
def withEncoded (d : Draft) (codec : Codec) (encoding : Except EncodingError Bytes) : Draft :=
  match encoding with
  | .ok bytes => { d with body := some ⟨bytes, codec.headerValue?, codec.format⟩ }
  | .error failure => { d with encodingFailure := some failure }

/-- A body without a type of its own is a sequence of bytes. -/
def withBody (d : Draft) (bytes : Bytes) (contentType : Option HeaderValue) : Draft :=
  { d with body := some ⟨bytes, contentType <|> Codec.binary.headerValue?, .binary⟩ }

def apply (d : Draft) : Call → Draft
  | .param name value => { d with params := d.params.insert name value }
  | .params pairs => { d with params := d.params.insertAll pairs }
  | .query key value => { d with query := d.query.append key value }
  | .queryOption key (some value) => { d with query := d.query.append key value }
  | .queryOption _ none => d
  | .policy policy => { d with policy := some policy }
  | .header name value => { d with headers := Headers.set d.headers name value }
  | .appendHeader name value => { d with headers := d.headers.append name value }
  | .operation name => { d with operation := some name }
  | .encoded codec encoding => d.withEncoded codec encoding
  | .body bytes contentType => d.withBody bytes contentType
  | .timeout timeout => { d with timeout }
  | .level level => { d with level := some level }
  | .attempt attempt => { d with attempt }

def applyAll (d : Draft) (calls : List Call) : Draft := calls.foldl apply d

/-- The draft that some calls fill in. -/
def ofCalls (method : Method) (template : String) (calls : List Call) : Draft :=
  (new method template).applyAll calls

/-! ## Typed execution -/

/-- Does a request ask for the content type of a codec?  Not if it already asks for something, and
not with HEAD, whose response has no body. -/
def asksFor (d : Draft) (codec : Codec) : Bool :=
  codec.contentType ≠ "" && d.method ≠ .head && !d.headers.contains HeaderName.accept

/-- The draft of a request whose response is decoded. -/
def accepting (d : Draft) (codec : Codec) : Draft :=
  if d.asksFor codec then
    d.apply (.header HeaderName.accept (Utf8.encode codec.contentType))
  else d

/-- How the body is shown; a draft without one shows text. -/
def bodyFormat (d : Draft) : BodyFormat := (d.body.map (·.format)).getD .text

end Draft

end RestTemplates
