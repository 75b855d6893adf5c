import RestTemplates.Template.Cache

/-!
# Resolver — from a raw template to a path and a query

A resolver reads templates through a cache, renders the path with the values of a call, and merges
the query of the call into that of the template.

This file defines:

* `ResolvedPath`, a rendered path with its query, and its text,
* `Resolver` with `parse`, `render` and `renderWith`.
-/

namespace RestTemplates

structure ResolvedPath where
  path : String
  query : Query
  deriving DecidableEq

namespace ResolvedPath

/-- The text of the query, if there is anything in it. -/
def queryString? (r : ResolvedPath) : Option String :=
  if r.query.isEmpty then none else some r.query.encode

/-- The path, followed by `?` and the text of the query if there is one. -/
def text (r : ResolvedPath) : String :=
  match r.queryString? with
  | some query => r.path ++ "?" ++ query
  | none => r.path

end ResolvedPath

/-- A cache of templates, and the merge policy of the calls that name none. -/
structure Resolver where
  cache : TemplateCache
  policy : MergePolicy
  deriving DecidableEq

namespace Resolver

def ofPolicy (policy : MergePolicy) : Resolver := ⟨.empty, policy⟩

instance : Inhabited Resolver := ⟨ofPolicy default⟩

/-- The outcome of a look-up: its result, the resolver after it, and the cache's report. -/
structure Lookup (α : Type) where
  result : Except ResolutionError α
  resolver : Resolver
  event : TemplateCache.Event

def parse (r : Resolver) (raw : String) : Lookup TemplateCache.Entry :=
  let looked := r.cache.resolve raw
  ⟨looked.result.mapError (⟨raw, ·⟩), { r with cache := looked.cache }, looked.event⟩

/-- A read template with the values and the query of a call. -/
def fill (template : UrlTemplate) (params : PathParams) (overrides : Query) (policy : MergePolicy) :
    Except TemplateError ResolvedPath :=
  (template.path.render params).map fun path => ⟨path, template.query.merge policy overrides⟩

def renderWith (r : Resolver) (raw : String) (params : PathParams) (overrides : Query)
    (policy : MergePolicy) : Lookup ResolvedPath :=
  let looked := r.parse raw
  { looked with
    result := looked.result.bind fun entry =>
      (fill entry.template params overrides policy).mapError (⟨raw, ·⟩) }

def render (r : Resolver) (raw : String) (params : PathParams) (overrides : Query) :
    Lookup ResolvedPath :=
  r.renderWith raw params overrides r.policy

end Resolver

end RestTemplates
