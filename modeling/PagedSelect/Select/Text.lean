import PagedSelect.Failure
import PagedSelect.Select.Basic
/-!
# The text of a statement

`SelectQuery.sql` writes a query.  The clauses come in a fixed order with one space between them;
limit and offset are written as whole numbers, which is the one part that can fail.
-/

namespace PagedSelect

/-- A parameter in a statement, behind the mark for parameters. -/
def paramText (placeholder : String) (n : Nat) : String := placeholder ++ paramName n

def Predicate.text (placeholder : String) : Predicate → String
  | comparison field op n => field ++ " " ++ op.symbol ++ " " ++ paramText placeholder n
  | membership field ns => field ++ " IN (" ++ ", ".intercalate (ns.map (paramText placeholder)) ++ ")"
  | range field low high =>
    field ++ " BETWEEN " ++ paramText placeholder low ++ " AND " ++ paramText placeholder high
  | missing field => field ++ " IS NULL"
  | present field => field ++ " IS NOT NULL"
  | anyLike fields n =>
    "(" ++ " OR ".intercalate (fields.map fun f => f ++ " LIKE " ++ paramText placeholder n) ++ ")"
  | given text => text

def OrderTerm.text : OrderTerm → String
  | column field direction => field ++ " " ++ direction.keyword
  | given text => text

def Projection.texts : Projection → List String
  | columns names => names
  | count label => ["COUNT(1) AS " ++ label]

def writeWhole (n : Int) : Outcome String :=
  match Numeral.write? n with
  | some s => .ok s
  | none => .error .tooLongToWrite

/-- The whole part of an amount in a statement. -/
def Quantity.written (n : Quantity) : Outcome String :=
  match n.truncate with
  | .ok n => writeWhole n
  | .error e => .error (.notWhole (WholeFault.ofDouble e))

/-- A clause with an amount; nothing if there is no amount. -/
def amountClause (keyword : String) : Option Quantity → Outcome (List String)
  | none => .ok []
  | some n => n.written.map fun s => [keyword ++ " " ++ s]

/-- A clause with a list; nothing if the list is empty. -/
def listClause (keyword separator : String) : List String → List String
  | [] => []
  | xs => [keyword ++ " " ++ separator.intercalate xs]

namespace SelectQuery

def headClause (q : SelectQuery) : String :=
  "SELECT " ++ ", ".intercalate q.projection.texts ++ " FROM " ++ q.table

def predicateTexts (q : SelectQuery) : List String := q.predicates.map (Predicate.text q.placeholder)

def sql (q : SelectQuery) : Outcome String := do
  let limit ← amountClause "LIMIT" q.limit
  let offset ← amountClause "OFFSET" q.offset
  return " ".intercalate (q.headClause :: listClause "WHERE" " AND " q.predicateTexts
    ++ listClause "ORDER BY" ", " (q.ordering.map OrderTerm.text) ++ limit ++ offset)

/-- The values of a query under the names of their parameters. -/
def parameters (q : SelectQuery) : Members := Keyed.ofList q.bindings

end SelectQuery

/-- The text of a statement with the values of its parameters beside it. -/
structure Statement where
  text : String
  parameters : Members
deriving Repr

def SelectQuery.statement (q : SelectQuery) : Outcome Statement :=
  q.sql.map fun text => ⟨text, q.parameters⟩

end PagedSelect
