import PagedSelect.Page.Metadata
import PagedSelect.Value.Wire
/-!
# Paged results

One page of rows with its place among all rows.  Page, size, number of pages, limit and offset are
there only if the query has a limit; `PagedResult.toWire` leaves out what is missing.
-/

namespace PagedSelect

structure PagedResult where
  data : List Value := []
  totalCount : Int := 0
  currentPage : Option Int := none
  pageSize : Option Int := none
  totalPages : Option Int := none
  limit : Option Int := none
  offset : Option Int := none
  hasMore : Bool := false
deriving Repr

namespace PagedResult

/-- The page of a query with this limit and offset. -/
def assemble (data : List Value) (total : Int) (metadata : PageMetadata) (limit offset : Option Int) :
    PagedResult where
  data := data
  totalCount := total
  currentPage := metadata.currentPage
  pageSize := metadata.pageSize
  totalPages := metadata.totalPages
  limit := limit
  offset := if limit.isSome then some (offset.getD 0) else none
  hasMore := metadata.hasMore

/-- The page of a query from the number of all rows and the rows of the page. -/
def ofRows (data : List Value) (total : Int) (limit offset : Option Int) : Outcome PagedResult := do
  let metadata ← PageMetadata.ofWindow total limit offset data.length
  return assemble data total metadata limit offset

def wireNumber (name : String) : Option Int → Members
  | some n => [(name, .int n)]
  | none => []

def toWire (r : PagedResult) : Outcome Value := do
  let data ← r.data.mapM Value.wire
  return .map ([("data", .list data), ("totalCount", .int r.totalCount)]
    ++ wireNumber "currentPage" r.currentPage ++ wireNumber "pageSize" r.pageSize
    ++ wireNumber "totalPages" r.totalPages ++ wireNumber "limit" r.limit ++ wireNumber "offset" r.offset
    ++ [("hasMore", .bool r.hasMore)])

end PagedResult

end PagedSelect
