import PagedSelect.Engine.Config
import PagedSelect.Entity
import PagedSelect.Filter.Rules
import PagedSelect.Request.Wire
/-!
# From a request to a query

A translator turns a request about an entity into a select query.  The parts are applied in order:
projection, filters, search, order, window.  The order matters for the numbers of parameters only.
-/

namespace PagedSelect

/-- Settings, the way to tables, and the operators of filters. -/
structure Translator where
  config : EngineConfig := {}
  resolver : TableResolver := .named
  registry : Registry := Registry.standard

namespace Translator

def filterRules (t : Translator) : FilterRules := ⟨t.registry, t.config.strict⟩

def queryFor (t : Translator) (e : Entity) : Outcome SelectQuery := do
  SelectQuery.ofTable (← t.resolver.resolve e) t.config.placeholder

def applyProjection (w : Option Whitelist) (q : SelectQuery) (columns : Option (List String)) :
    Outcome SelectQuery :=
  match columns.getD [] with
  | [] => .ok q
  | names => do
    names.forM fun name => permitted w (·.project name)
    q.select names

def applyFilters (t : Translator) (w : Option Whitelist) (q : SelectQuery) (filters : Option Members) :
    Outcome SelectQuery :=
  t.filterRules.apply w q (filters.getD [])

def applyBounds (q : SelectQuery) (b : Bounds) : SelectQuery :=
  let q := match b.limit with
    | some n => q.withLimit (.whole n)
    | none => q
  match b.offset with
  | some n => q.withOffset (.whole n)
  | none => q

def applyWindow (t : Translator) (q : SelectQuery) : Option PageSpec → Outcome SelectQuery
  | none => .ok q
  | some s => (s.resolve t.config.strict t.config.maxPageSize).map (applyBounds q)

/-- The query that a request about an entity describes. -/
def query (t : Translator) (w : Option Whitelist) (e : Entity) (r : QueryRequest) : Outcome SelectQuery := do
  let q ← t.queryFor e
  let q ← applyProjection w q r.fields
  let q ← t.applyFilters w q r.filters
  let q ← applySearch t.config.strict w q r.search
  let q ← SortField.apply t.config.strict w q r.sortValue
  t.applyWindow q r.pagination

def queryOfWire (t : Translator) (w : Option Whitelist) (e : Entity) (raw : Value) : Outcome SelectQuery := do
  t.query w e (← QueryRequest.ofWire raw)

end Translator

end PagedSelect
