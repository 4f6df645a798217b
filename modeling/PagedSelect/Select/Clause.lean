import PagedSelect.Select.Build
/-!
# Clauses

A step of building a query as data, so that runs of steps can be compared: `Clause.apply` carries
out one step and `SelectQuery.applyAll` a run of them.  `Clause.kind` says which part of a query a
step may change.
-/

namespace PagedSelect

/-- One step of building a query, with what the caller gives for it. -/
inductive Clause where
  | select (columns : List String)
  | compare (field : String) (operator value : Value)
  | equals (field : String) (value : Value)
  | isIn (field : String) (values : Value)
  | between (field : String) (low high : Value)
  | isMissing (field : String)
  | isPresent (field : String)
  | textSearch (field : String) (term : Option String) (exact : Bool)
  | searchAny (fields : List String) (term : Option String)
  | orderBy (field : String) (direction : Value)
  | orderByAll (terms : Members)
  | limit (n : Quantity)
  | offset (n : Quantity)
  | paginate (page size : Option Quantity)
  | counting (label : String)
deriving Repr

/-- The part of a query that a step may change. -/
inductive ClauseKind where
  | projection
  | predicate
  | ordering
  | window
  | counting
deriving DecidableEq, Repr

namespace Clause

def kind : Clause → ClauseKind
  | select _ => .projection
  | compare .. | equals .. | isIn .. | between .. | isMissing _ | isPresent _ | textSearch ..
  | searchAny .. => .predicate
  | orderBy .. | orderByAll _ => .ordering
  | limit _ | offset _ | paginate .. => .window
  | counting _ => .counting

/-- The values of a membership test: what the given value yields, nothing for null. -/
def choices : Value → Outcome (List Value)
  | .null => .ok []
  | v =>
    match v.elements? with
    | some vs => .ok vs
    | none => .error (.notIterable v.qualifiedName)

def apply (q : SelectQuery) : Clause → Outcome SelectQuery
  | select columns => q.select columns
  | compare field operator value => do q.compareBy field (← operator.written) value
  | equals field value => q.equals field value
  | isIn field values => do q.isIn field (← choices values)
  | between field low high => q.between field low high
  | isMissing field => q.isMissing field
  | isPresent field => q.isPresent field
  | textSearch field term exact => q.textSearch field (term.getD "") exact
  | searchAny fields term => q.searchAny fields (term.getD "")
  | orderBy field direction => q.orderBy field (Direction.ofValue direction)
  | orderByAll terms => q.orderByAll (terms.map fun t => (t.1, Direction.ofValue t.2))
  | limit n => .ok (q.withLimit n)
  | offset n => .ok (q.withOffset n)
  | paginate (some page) (some size) => q.paginate page size
  | paginate _ _ => .ok q
  | counting label => q.counting label

end Clause

/-- Carries out steps in order, up to the first that fails. -/
def SelectQuery.applyAll (q : SelectQuery) (clauses : List Clause) : Outcome SelectQuery :=
  clauses.foldlM Clause.apply q

end PagedSelect
