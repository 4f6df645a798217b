import PagedSelect.Request.Basic
import PagedSelect.Request.Reading
import PagedSelect.Request.Writing
/-!
# Requests on the wire

`QueryRequest.ofWire` reads a request from a map of members in camel case, where the snake case of a
member is understood as well; unknown members are passed over.  `QueryRequest.toWire` writes it back
and leaves out what is missing, but no null inside filters or a sort map.

Here stands what requests themselves decide: their members with the spellings and the kinds of these, the
ways to give an order, and what becomes of a value that is no request.  How a member of a kind is read, and
how it is written, are rules of the library that validates requests, in the modules on reading and on writing
members.
-/

namespace PagedSelect

open Reading

/-! ## Reading -/

def SearchSpec.ofMembers (m : Members) : Reading SearchSpec :=
  ((((done SearchSpec.mk).also (maybe m ["field"] text)).also (maybe m ["fields"] (list text))).also
    (maybe m ["term"] text)).also (member m ["exact"] (done false) flag)

def SortItem.ofMembers (m : Members) : Reading SortItem :=
  (((done SortItem.mk).also (maybe m ["field"] text)).also (maybe m ["direction"] text)).also
    (maybe m ["nullsFirst", "nulls_first"] flag)

def PageSpec.ofMembers (m : Members) : Reading PageSpec :=
  ((((done PageSpec.mk).also (maybe m ["page"] whole)).also (maybe m ["pageSize", "page_size"] whole)).also
    (maybe m ["offset"] whole)).also (maybe m ["limit"] whole)

def SearchSpec.ofValue : Value → Reading SearchSpec := record "SearchSpec" ofMembers

def PageSpec.ofValue : Value → Reading PageSpec := record "PaginationSpec" ofMembers

/-- A sort item, as a map or as a record of its own. -/
def SortItem.ofValue : Value → Reading SortItem
  | .record name fields => if name = recordName then ofMembers fields else fail (.notRecord recordName)
  | v => record recordName ofMembers v

def SortEntry.ofValue (v : Value) : Reading SortEntry :=
  firstOf [(SortItem.recordName, (SortItem.ofValue v).map item), ("str", (text v).map token)]

def SortRequest.ofValue (v : Value) : Reading SortRequest :=
  firstOf [
    ("dict[str,any]", (Reading.members v).map map),
    ("list[union[SortItem,str]]", (list SortEntry.ofValue v).map entries),
    ("str", (text v).map tokens)]

namespace QueryRequest

def ofMembers (m : Members) : Reading QueryRequest :=
  (((((done QueryRequest.mk).also (maybe m ["fields"] (list text))).also (maybe m ["filters"] Reading.members)).also
    (maybe m ["search"] SearchSpec.ofValue)).also (maybe m ["sort"] SortRequest.ofValue)).also
    (maybe m ["pagination"] PageSpec.ofValue)

/-- A request from any value; null asks for nothing. -/
def ofWire : Value → Outcome QueryRequest
  | .null => .ok {}
  | .map members =>
    match ofMembers members with
    | .ok r => .ok r
    | .error issues => reject (.malformed (.listed (Report.ofIssues issues)))
  | v => reject (.malformed (.notMap v.typeName))

end QueryRequest

/-! ## Writing -/

def SearchSpec.toWire (s : SearchSpec) : Value :=
  .map (wireMember "field" .text s.field ++ wireMember "fields" .ofTexts s.fields
    ++ wireMember "term" .text s.term ++ [("exact", .bool s.exact)])

def PageSpec.toWire (s : PageSpec) : Value :=
  .map (wireMember "page" .int s.page ++ wireMember "pageSize" .int s.pageSize
    ++ wireMember "offset" .int s.offset ++ wireMember "limit" .int s.limit)

def QueryRequest.toWire (r : QueryRequest) : Value :=
  .map (wireMember "fields" .ofTexts r.fields
    ++ wireMember "filters" (fun m => (Value.map m).opened) r.filters
    ++ wireMember "search" SearchSpec.toWire r.search
    ++ wireMember "sort" (fun s => s.toValue.opened) r.sort
    ++ wireMember "pagination" PageSpec.toWire r.pagination)

end PagedSelect
