import PagedSelect.Request.Basic
import PagedSelect.Value.Whole
/-!
# Requests from query parameters

A flat map of parameters, as a query string gives it, stands for a request: a term to search in fixed
fields, equality filters on fixed fields, an order, a page and its size, and a projection.  There is
always a page: what is no whole number counts as the default.
-/

namespace PagedSelect

/-- Which parameters mean what. -/
structure ParamRules where
  searchFields : List String := []
  filterFields : List String := []
  defaultPage : Option Int := some 1
  defaultPageSize : Option Int := some 10
  searchKey : String := "search"
  sortKey : String := "sort"
  sortByKey : String := "sortBy"
  sortDirectionKey : String := "sortDirection"
  pageKey : String := "page"
  pageSizeKey : String := "pageSize"
  fieldsKey : String := "fields"

namespace ParamRules

def param (params : Members) (key : String) : Value := (Keyed.get? key params).getD .null

/-- The parameter for a filter, unless it is absent, null or the empty text. -/
def filterValue? (params : Members) (name : String) : Option Value :=
  match Keyed.get? name params with
  | none | some .null | some (.text "") => none
  | some v => some v

def filters (rules : ParamRules) (params : Members) : Option Members :=
  match Keyed.ofList (rules.filterFields.filterMap fun name =>
      (filterValue? params name).map fun v => (name, v)) with
  | [] => none
  | members => some members

/-- The search, if there is a term and a field to search it in. -/
def search (rules : ParamRules) (params : Members) : Option SearchSpec :=
  match param params rules.searchKey with
  | .text term =>
    if Text.isVoid term || rules.searchFields.isEmpty then none
    else some { fields := some rules.searchFields, term := some term }
  | _ => none

/-- The direction for the field to sort by. -/
def sortDirection (rules : ParamRules) (params : Members) : Value :=
  let direction := param params rules.sortDirectionKey
  if direction.isGiven then direction else .text "asc"

/-- The order by tokens, if there are any. -/
def sortTokens (rules : ParamRules) (params : Members) : Outcome (Option SortRequest) :=
  let v := param params rules.sortKey
  if v.isGiven then do return some (.tokens (← v.written)) else .ok none

/-- The order: by one field with its direction, or by tokens. -/
def sort (rules : ParamRules) (params : Members) : Outcome (Option SortRequest) :=
  match param params rules.sortByKey with
  | .text field =>
    if Text.isVoid field then rules.sortTokens params
    else .ok (some (.map [(Text.trim field, rules.sortDirection params)]))
  | _ => rules.sortTokens params

/-- The fields that a text names between commas, or the texts of the items of a list. -/
def fieldNames : Value → Outcome (List String)
  | .text s => .ok (((Text.commaPieces s).map Text.trim).filter (· ≠ ""))
  | .list items | .tuple items => items.mapM Value.written
  | _ => .ok []

def fields (rules : ParamRules) (params : Members) : Outcome (Option (List String)) := do
  match ← fieldNames (param params rules.fieldsKey) with
  | [] => return none
  | names => return some names

/-- A whole number; the default for what is none.  An infinite amount is refused. -/
def wholeParam (v : Value) (default : Option Int) : Outcome (Option Int) :=
  match v.whole with
  | .ok n => .ok (some n)
  | .error (.infinite spelling) => .error (.notWhole (.infinite spelling))
  | .error _ => .ok default

end ParamRules

def QueryRequest.ofParams (rules : ParamRules) (params : Members) : Outcome QueryRequest := do
  let sort ← rules.sort params
  let fields ← rules.fields params
  let page ← ParamRules.wholeParam (ParamRules.param params rules.pageKey) rules.defaultPage
  let pageSize ← ParamRules.wholeParam (ParamRules.param params rules.pageSizeKey) rules.defaultPageSize
  return {
    fields
    filters := rules.filters params
    search := rules.search params
    sort
    pagination := some { page, pageSize } }

end PagedSelect
