import RestTemplates.Query
import RestTemplates.Template.Path

/-!
# URL templates — a path template with a query

The raw text of a URL template is cut at its first `#`, where a fragment begins that is dropped, and
the rest at its first `?`.  A fault of the path is found before a fault of the query.
-/

namespace RestTemplates

structure UrlTemplate where
  raw : String
  path : PathTemplate
  query : Query
  deriving DecidableEq

namespace UrlTemplate

/-- The text before the first `#`. -/
def target (raw : String) : List Char := raw.toList.takeWhile (· ≠ '#')

def pathText (raw : String) : String := String.ofList ((target raw).takeWhile (· ≠ '?'))

def queryText (raw : String) : String := String.ofList (((target raw).dropWhile (· ≠ '?')).drop 1)

def parse (raw : String) : Except TemplateError UrlTemplate := do
  let path ← PathTemplate.compile (pathText raw)
  let query ← Query.parse (queryText raw)
  return { raw, path, query }

end UrlTemplate

end RestTemplates
