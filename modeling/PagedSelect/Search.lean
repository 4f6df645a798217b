import PagedSelect.Select.Build
import PagedSelect.Whitelist
/-!
# Search

A search looks for a term in several fields, which share one parameter, or in one field.  A void
term asks for nothing.  A search without fields is passed over, or rejected in strict mode.
-/

namespace PagedSelect

/-- A search as a request asks for it. -/
structure SearchSpec where
  field : Option String := none
  fields : Option (List String) := none
  term : Option String := none
  exact : Bool := false
deriving DecidableEq, Repr

namespace SearchSpec

def isMultiField (s : SearchSpec) : Bool := !(s.fields.getD []).isEmpty

/-- Adds a search to a query. -/
def apply (strict : Bool) (w : Option Whitelist) (q : SelectQuery) (s : SearchSpec) : Outcome SelectQuery :=
  let term := s.term.getD ""
  if Text.isVoid term then .ok q
  else if s.isMultiField then do
    let fields := s.fields.getD []
    fields.forM fun f => permitted w (·.search f)
    q.searchAny fields term
  else
    match s.field.filter (· ≠ "") with
    | some field => do
      permitted w (·.search field)
      q.textSearch field term s.exact
    | none => if strict then reject (.malformed .searchTarget) else .ok q

end SearchSpec

def applySearch (strict : Bool) (w : Option Whitelist) (q : SelectQuery) :
    Option SearchSpec → Outcome SelectQuery
  | none => .ok q
  | some s => s.apply strict w q

end PagedSelect
