import PagedSelect.Page.Window
import PagedSelect.Search
import PagedSelect.Sort
/-!
# Requests

A `QueryRequest` says which columns, filters, search, order and window a query has.  Every part may
be missing.
-/

namespace PagedSelect

/-- An object in a sort list. -/
structure SortItem where
  field : Option String := none
  direction : Option String := none
  nullsFirst : Option Bool := none
deriving DecidableEq, Repr

/-- An item of a sort list: an object, or a token. -/
inductive SortEntry where
  | item (i : SortItem)
  | token (s : String)
deriving DecidableEq, Repr

/-- The order that a request asks for, in one of its notations. -/
inductive SortRequest where
  | map (members : Members)
  | entries (es : List SortEntry)
  | tokens (s : String)
deriving Repr

/-- A request. -/
structure QueryRequest where
  fields : Option (List String) := none
  filters : Option Members := none
  search : Option SearchSpec := none
  sort : Option SortRequest := none
  pagination : Option PageSpec := none
deriving Repr

def Value.ofOption {α : Type} (f : α → Value) : Option α → Value
  | some a => f a
  | none => .null

def SortItem.recordName : String := "SortItem"

def SortItem.toValue (i : SortItem) : Value :=
  .record recordName [
    ("field", .ofOption .text i.field),
    ("direction", .ofOption .text i.direction),
    ("nulls_first", .ofOption .bool i.nullsFirst)]

def SortEntry.toValue : SortEntry → Value
  | item i => i.toValue
  | token s => .text s

def SortRequest.toValue : SortRequest → Value
  | map members => .map members
  | entries es => .list (es.map SortEntry.toValue)
  | tokens s => .text s

/-- The sort value of a request, null if there is none. -/
def QueryRequest.sortValue (r : QueryRequest) : Value := .ofOption SortRequest.toValue r.sort

end PagedSelect
