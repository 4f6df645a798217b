import PagedSelect.Engine.Translator
import PagedSelect.Result
import PagedSelect.Row.Mapper
import PagedSelect.Traced
/-!
# Running queries

An engine counts the rows of a query and fetches a page of them from a store.  Both statements come
from the one query, so they have the same predicates and the same parameters.  A `Run` keeps the
statements that were sent, up to the part that failed; its failure is the one of that part.

The place of a page is worked out for a limit and an offset that are whole numbers, as all that requests
ask for are.  A double that a caller has given to a query is written into its statements, but what place
its page would have is left out here.
-/

namespace PagedSelect

structure Store where
  fetchCount : Statement → Outcome Value
  fetchRows : Statement → Outcome (List Row)

/-- The statements sent to a store, and what came of them. -/
abbrev Run (α : Type) := Traced Statement α

/-- A translator with a store to run its queries. -/
structure Engine where
  translator : Translator
  store : Store

namespace Engine

/-- The number of rows that a query selects without its window. -/
def count (g : Engine) (q : SelectQuery) : Run Int := do
  let s ← Traced.silent (q.countStatement g.translator.config.countAlias)
  let total ← Traced.event s (g.store.fetchCount s)
  Traced.silent (total.whole.mapError .notWhole)

/-- The rows of a query, mapped. -/
def fetch (g : Engine) (mapper : RowMapper) (q : SelectQuery) : Run (List Value) := do
  let s ← Traced.silent q.statement
  let rows ← Traced.event s (g.store.fetchRows s)
  Traced.silent (rows.mapM mapper.apply)

/-- An amount as the place of a page is worked out from it: a whole number as it is, a flag as the number that
it counts as.  Of a double, for which no place is defined, there is its whole part. -/
def wholePart : Option Quantity → Outcome (Option Int)
  | none => .ok none
  | some n => (n.truncate.map some).mapError fun e => .notWhole (.ofDouble e)

/-- The page that a query selects: the count first, then the rows. -/
def page (g : Engine) (mapper : RowMapper) (q : SelectQuery) : Run PagedResult := do
  let total ← g.count q
  let data ← g.fetch mapper q
  Traced.silent do
    PagedResult.ofRows data total (← wholePart q.limit) (← wholePart q.offset)

def execute (g : Engine) (w : Option Whitelist) (mapper : RowMapper) (e : Entity) (raw : Value) :
    Run PagedResult := do
  let q ← Traced.silent (g.translator.queryOfWire w e raw)
  g.page mapper q

/-- The page that a request describes which has been read already. -/
def executeRequest (g : Engine) (w : Option Whitelist) (mapper : RowMapper) (e : Entity) (r : QueryRequest) :
    Run PagedResult := do
  let q ← Traced.silent (g.translator.query w e r)
  g.page mapper q

end Engine

end PagedSelect
