import PagedSelect.Identifier
import PagedSelect.Select.Text
/-!
# Building select queries

Every operation gives a new query.  Fields must be identifiers; values get the next parameters, in
order, so that no name is used twice.  Amounts that cannot limit anything are passed over.
-/

namespace PagedSelect

/-- What a caller gives to start a query. -/
structure SelectStart where
  table : Value
  placeholder : String := ":"
  columns : List String := ["*"]
  predicates : List String := []
  ordering : List String := []
  limit : Option Quantity := none
  offset : Option Quantity := none
  bindings : Members := []
  nextParam : Int := 0

namespace SelectQuery

/-- A limit for a new query: above zero. -/
def checkLimit : Option Quantity → Outcome Unit
  | some n => if n.isExhausted then rejectPage (.limit n) else .ok ()
  | none => .ok ()

/-- An offset for a new query: not below zero. -/
def checkOffset : Option Quantity → Outcome Unit
  | some n => if n.isNegative then rejectPage (.offset n) else .ok ()
  | none => .ok ()

/-- A new query, if its parts make sense. -/
def make (start : SelectStart) : Outcome SelectQuery := do
  let table ← Identifier.ofValue start.table
  if start.placeholder = "" then .error .emptyPlaceholder
  else
    checkLimit start.limit
    checkOffset start.offset
    if start.nextParam < 0 then .error .negativeParameter
    else return {
      table
      placeholder := start.placeholder
      projection := .columns start.columns
      predicates := start.predicates.map .given
      ordering := start.ordering.map .given
      limit := start.limit
      offset := start.offset
      bindings := start.bindings
      nextParam := start.nextParam.toNat }

/-- A query for all rows of a table. -/
def ofTable (table placeholder : String) : Outcome SelectQuery :=
  make { table := .text table, placeholder }

/-! ## Projection -/

/-- A column of a projection: an identifier, or all columns. -/
def checkColumn (name : String) : Outcome Unit :=
  if name = "*" then .ok () else (Identifier.check name).map fun _ => ()

/-- Replaces the projection; no columns keep the one there is. -/
def select (q : SelectQuery) : List String → Outcome SelectQuery
  | [] => .ok q
  | names => do
    names.forM checkColumn
    return { q with projection := .columns names }

/-! ## Predicates -/

/-- Values under the names of the parameters from `first` on. -/
def numbered (first : Nat) : List Value → Members
  | [] => []
  | v :: r => (paramName first, v) :: numbered (first + 1) r

/-- Adds a predicate whose parameters are the next ones, for these values.  The numbers of these parameters are
taken to be short enough for a name (`Numeral.write?`). -/
def withPredicate (q : SelectQuery) (p : Predicate) (values : List Value) : SelectQuery :=
  { q with
    predicates := q.predicates ++ [p]
    bindings := q.bindings ++ numbered q.nextParam values
    nextParam := q.nextParam + values.length }

def compare (q : SelectQuery) (field : String) (op : Comparison) (value : Value) : Outcome SelectQuery := do
  let field ← Identifier.check field
  return q.withPredicate (.comparison field op q.nextParam) [value]

/-- Compares a field with a value, by the text of a comparison. -/
def compareBy (q : SelectQuery) (field operator : String) (value : Value) : Outcome SelectQuery :=
  match Comparison.ofText? operator with
  | some op => q.compare field op value
  | none => reject (.unknownOperator operator (Comparison.all.map Comparison.symbol) (some field))

def equals (q : SelectQuery) (field : String) (value : Value) : Outcome SelectQuery :=
  q.compare field .equal value

/-- The field has one of the values; no values restrict nothing. -/
def isIn (q : SelectQuery) (field : String) : List Value → Outcome SelectQuery
  | [] => .ok q
  | values => do
    let field ← Identifier.check field
    return q.withPredicate (.membership field (List.range' q.nextParam values.length)) values

def between (q : SelectQuery) (field : String) (low high : Value) : Outcome SelectQuery := do
  let field ← Identifier.check field
  return q.withPredicate (.range field q.nextParam (q.nextParam + 1)) [low, high]

def isMissing (q : SelectQuery) (field : String) : Outcome SelectQuery := do
  let field ← Identifier.check field
  return q.withPredicate (.missing field) []

def isPresent (q : SelectQuery) (field : String) : Outcome SelectQuery := do
  let field ← Identifier.check field
  return q.withPredicate (.present field) []

def containing (term : String) : Value := .text ("%" ++ term ++ "%")

/-- The field is the term or holds it; a void term restricts nothing. -/
def textSearch (q : SelectQuery) (field term : String) (exact : Bool) : Outcome SelectQuery :=
  if Text.isVoid term then .ok q
  else if exact then q.compare field .equal (.text term)
  else q.compare field .like (containing term)

/-- One of the fields holds the term; all share one parameter. -/
def searchAny (q : SelectQuery) (fields : List String) (term : String) : Outcome SelectQuery :=
  if fields.isEmpty || Text.isVoid term then .ok q
  else do
    fields.forM fun f => (Identifier.check f).map fun _ => ()
    return q.withPredicate (.anyLike fields q.nextParam) [containing term]

/-! ## Order and window -/

def orderBy (q : SelectQuery) (field : String) (direction : Direction) : Outcome SelectQuery := do
  let field ← Identifier.check field
  return { q with ordering := q.ordering ++ [.column field direction] }

def orderByAll (q : SelectQuery) (terms : List (String × Direction)) : Outcome SelectQuery :=
  terms.foldlM (fun q t => q.orderBy t.1 t.2) q

/-- Sets the limit, if it is above zero. -/
def withLimit (q : SelectQuery) (n : Quantity) : SelectQuery :=
  if n.isPositive then { q with limit := some n } else q

/-- Sets the offset, if it is not below zero. -/
def withOffset (q : SelectQuery) (n : Quantity) : SelectQuery :=
  if n.isNatural then { q with offset := some n } else q

/-- Limits a query to a page, counted from one, if page and size are above zero. -/
def paginate (q : SelectQuery) (page size : Quantity) : Outcome SelectQuery :=
  if page.isPositive && size.isPositive then
    match page.minusOne.times? size with
    | some offset => .ok ((q.withLimit size).withOffset offset)
    | none => .error .factorTooLarge
  else .ok q

/-! ## Counting -/

/-- The query that counts the rows: the same predicates, no order and no window. -/
def counting (q : SelectQuery) (label : String) : Outcome SelectQuery := do
  let label ← Identifier.check label
  return { q with projection := .count label, ordering := [], limit := none, offset := none }

def countStatement (q : SelectQuery) (label : String) : Outcome Statement := do
  (← q.counting label).statement

end SelectQuery

end PagedSelect
