import RestTemplates.Request
import RestTemplates.Text.Quoted

/-!
# Expectations — what a test says about a request

An expectation is checked against a request; one that is not met has a complaint, which names what
was expected, what was found, and the URL of the request.

This file defines:

* `Expectation` and `Expectation.check`,
* `Complaint` and its text.
-/

namespace RestTemplates

inductive Expectation
  | method (expected : Method)
  | operation (expected : String)
  | host (expected : String)
  | path (expected : String)
  | timeout (expected : Option Duration)
  | bodyPresent
  | bodyAbsent
  | body (expected : Bytes)
  /-- The path and the query as they are written. -/
  | target (expected : String)
  | header (name expected : String)
  | headerAbsent (name : String)
  | queryHas (key value : String)
  | queryAbsent (key : String)
  | queryValues (key : String) (expected : List String)
  | queryKeys (expected : List String)
  deriving DecidableEq, Repr

/-! ## Complaints -/

inductive Complaint
  /-- A title with details, the last of which is the URL. -/
  | mismatch (title : String) (details : List (String × String)) (url : String)
  | bodyExpected (url : String)
  | bodyUnexpected (url : String)
  | badHeaderName (name : String)
  deriving DecidableEq, Repr

namespace Complaint

def detailText (detail : String × String) : String := "\n  " ++ detail.1 ++ ": " ++ detail.2

def message : Complaint → String
  | .mismatch title details url =>
    title ++ String.join ((details ++ [("url", url)]).map detailText)
  | .bodyExpected url => "expected body present, but body=None\nurl: " ++ url
  | .bodyUnexpected url => "expected body absent, but body=Some(..)\nurl: " ++ url
  | .badHeaderName name => "invalid header name literal: " ++ Quoted.quote name

end Complaint

namespace Expectation

/-! ## Texts of what was found -/

/-- Bytes as quoted text. -/
def bytesText (bytes : Bytes) : String := Quoted.quote (Utf8.decodeLossy bytes)

def pairsText (pairs : List (String × String)) : String :=
  ", ".intercalate (pairs.map fun pair => pair.1 ++ "=" ++ pair.2)

/-- The distinct texts of a list, in order. -/
def distinct (texts : List String) : List String := (Dictionary.ofList (texts.map (·, ()))).keys

/-- The path of a URL, followed by its query if it has one. -/
def targetText (url : Url) : String :=
  match url.query with
  | some query => url.path ++ "?" ++ query
  | none => url.path

/-! ## Checks -/

/-- Compares two values and shows both if they differ. -/
def compare {α : Type} [DecidableEq α] (title : String) (describe : α → String) (url : Url)
    (expected found : α) : Except Complaint Unit :=
  if found = expected then .ok ()
  else
    .error (.mismatch title [("expected", describe expected), ("got", describe found)] url.text)

/-- The header name that a test spells. -/
def headerName (name : String) : Except Complaint HeaderName :=
  match HeaderName.parse? name with
  | some known => .ok known
  | none => .error (.badHeaderName name)

/-- A header whose first value is readable and as expected. -/
def checkHeader (r : Request) (name : HeaderName) (expected : String) : Except Complaint Unit :=
  match Headers.text? r.headers name with
  | some found =>
    if found = expected then .ok ()
    else
      .error (.mismatch "header mismatch"
        [("header", name), ("expected", expected), ("got", found)] r.url.text)
  | none =>
    .error (.mismatch "missing header" [("header", name), ("expected", expected)] r.url.text)

def checkHeaderAbsent (r : Request) (name : HeaderName) : Except Complaint Unit :=
  if r.headers.contains name then
    .error (.mismatch "expected header absent"
      [("header", name), ("got", Quoted.option Quoted.quote (Headers.text? r.headers name))]
      r.url.text)
  else .ok ()

def checkQueryHas (r : Request) (key value : String) : Except Complaint Unit :=
  let pairs := r.url.queryPairs
  if pairs.contains (key, value) then .ok ()
  else
    .error (.mismatch "missing query pair"
      [("expected", key ++ "=" ++ value), ("got", pairsText pairs)] r.url.text)

def checkQueryAbsent (r : Request) (key : String) : Except Complaint Unit :=
  let pairs := r.url.queryPairs
  if pairs.any (·.1 = key) then
    .error (.mismatch "expected query key absent"
      [("key", key), ("got", pairsText pairs)] r.url.text)
  else .ok ()

def checkQueryValues (r : Request) (key : String) (expected : List String) :
    Except Complaint Unit :=
  let pairs := r.url.queryPairs
  let found := (pairs.filter (·.1 = key)).map (·.2)
  if found = expected then .ok ()
  else
    .error (.mismatch "query values mismatch"
      [("key", key), ("expected", Quoted.list expected), ("got", Quoted.list found),
        ("all", pairsText pairs)] r.url.text)

def checkQueryKeys (r : Request) (expected : List String) : Except Complaint Unit :=
  let pairs := r.url.queryPairs
  let found := distinct (pairs.map (·.1))
  if found = distinct expected then .ok ()
  else
    .error (.mismatch "query key-set mismatch"
      [("expected", Quoted.set (distinct expected)), ("got", Quoted.set found),
        ("all", pairsText pairs)] r.url.text)

/-- Compares a request with an expectation. -/
def check (r : Request) : Expectation → Except Complaint Unit
  | .method expected => compare "method mismatch" Method.token r.url expected r.info.method
  | .operation expected => compare "operation mismatch" id r.url expected r.info.operation
  | .host expected => compare "host mismatch" id r.url expected r.url.host.text
  | .path expected => compare "path mismatch" id r.url expected r.url.path
  | .timeout expected =>
    compare "timeout mismatch" (Quoted.option Duration.text) r.url expected r.timeout
  | .bodyPresent => if r.body.isSome then .ok () else .error (.bodyExpected r.url.text)
  | .bodyAbsent => if r.body.isSome then .error (.bodyUnexpected r.url.text) else .ok ()
  | .body expected =>
    if r.body = some expected then .ok ()
    else
      .error (.mismatch "body mismatch"
        [("expected", bytesText expected), ("got", Quoted.option bytesText r.body)] r.url.text)
  | .target expected => compare "target mismatch" id r.url expected (targetText r.url)
  | .header name expected => (headerName name).bind (checkHeader r · expected)
  | .headerAbsent name => (headerName name).bind (checkHeaderAbsent r)
  | .queryHas key value => checkQueryHas r key value
  | .queryAbsent key => checkQueryAbsent r key
  | .queryValues key expected => checkQueryValues r key expected
  | .queryKeys expected => checkQueryKeys r expected

end Expectation

end RestTemplates
