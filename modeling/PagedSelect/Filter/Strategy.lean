import PagedSelect.Select.Build
/-!
# Condition strategies

A strategy turns one operator of a condition into a predicate.  `Operator` lists the built-in ones
in the order of their precedence; two more, for a caller's own operators, match the start of a text
and refuse every value.
-/

namespace PagedSelect

/-- How an operator of a condition is compiled: in strict mode or not, onto a query, for a field, from
the operator's value and the whole condition. -/
structure Strategy where
  name : String
  apply : (strict : Bool) → SelectQuery → (field : String) → (value : Value) → (condition : Members) →
    Outcome SelectQuery

inductive Operator where
  | eq
  | ne
  | gt
  | gte
  | lt
  | lte
  | isIn
  | between
  | like
  | search
  | isNull
deriving DecidableEq, Repr

namespace Operator

def name : Operator → String
  | eq => "eq"
  | ne => "ne"
  | gt => "gt"
  | gte => "gte"
  | lt => "lt"
  | lte => "lte"
  | isIn => "in"
  | between => "between"
  | like => "like"
  | search => "search"
  | isNull => "isNull"

/-- All operators in the order of their precedence. -/
def all : List Operator := [eq, ne, gt, gte, lt, lte, isIn, between, like, search, isNull]

def refuse (field : String) (fault : ConditionFault) : Outcome SelectQuery := reject (.badValue field fault)

/-- A field with one of the items of a list that is not empty. -/
def applyIn (q : SelectQuery) (field : String) (value : Value) : Outcome SelectQuery :=
  match value.sequence? with
  | none => refuse field (.notList value.typeName)
  | some [] => refuse field .emptyList
  | some items => q.isIn field items

/-- A field between the two items of a list. -/
def applyBetween (q : SelectQuery) (field : String) (value : Value) : Outcome SelectQuery :=
  match value.sequence? with
  | some [low, high] => q.between field low high
  | _ => refuse field .notPair

/-- A field that is missing, for the flag `true`, or else present; strict mode takes flags only. -/
def applyNull (strict : Bool) (q : SelectQuery) (field : String) : Value → Outcome SelectQuery
  | .bool true => q.isMissing field
  | .bool false => q.isPresent field
  | v =>
    if strict then do
      checkWritable [v]
      refuse field (.notFlag v)
    else q.isPresent field

def isExact (condition : Members) : Bool := ((Keyed.get? "exact" condition).getD .null).isTrue

def apply (strict : Bool) (q : SelectQuery) (field : String) (value : Value) (condition : Members) :
    Operator → Outcome SelectQuery
  | eq => q.compare field .equal value
  | ne => q.compare field .notEqual value
  | gt => q.compare field .greater value
  | gte => q.compare field .greaterEqual value
  | lt => q.compare field .less value
  | lte => q.compare field .lessEqual value
  | isIn => applyIn q field value
  | between => applyBetween q field value
  | like =>
    if value.isNull then refuse field .noPattern
    else do q.compare field .like (.text (← value.written))
  | search =>
    if value.isNull then .ok q
    else do q.textSearch field (← value.written) (isExact condition)
  | isNull => applyNull strict q field value

def strategy (op : Operator) : Strategy := ⟨op.name, fun strict q field value condition =>
  op.apply strict q field value condition⟩

end Operator

namespace Strategy

/-- A caller's operator for the start of a text. -/
def startsWith (name : String) : Strategy := ⟨name, fun _ q field value _ =>
  do q.compare field .like (.text ((← value.written) ++ "%"))⟩

def refusing (name : String) : Strategy := ⟨name, fun _ _ field _ _ =>
  reject (.badValue field (.other ("rejected by " ++ name)))⟩

end Strategy

end PagedSelect
