import PagedSelect.Filter.Registry
import PagedSelect.Whitelist
/-!
# Filters

Filters map fields to conditions.  A condition that is a map names an operator; any other value asks
for equality.  Lenient translation passes over conditions that it cannot use: without a known
operator, or with a value that the operator refuses.  Strict translation rejects them, and asks for
exactly one operator, beside which only modifiers may stand.
-/

namespace PagedSelect

structure FilterRules where
  registry : Registry
  strict : Bool

namespace FilterRules

/-- Keys that may stand beside an operator. -/
def modifiers : List String := ["exact"]

/-- The keys of a condition that are neither operators nor modifiers. -/
def unknown (rules : FilterRules) (condition : Members) : List String :=
  (Keyed.keys condition).filter fun k => !rules.registry.has k && !modifiers.contains k

/-- The operator of a condition, or none to pass over the condition. -/
def operator? (rules : FilterRules) (field : String) (condition : Members) : Outcome (Option String) :=
  let known := rules.registry.recognized condition
  if rules.strict then
    match rules.unknown condition, known with
    | k :: _, _ => reject (.unknownOperator k rules.registry.operators (some field))
    | [], [name] => .ok (some name)
    | [], _ => reject (.malformed (.operatorCount field known.length))
  else .ok known.head?

/-- Passes over a refused value, unless translation is strict. -/
def orSkip (rules : FilterRules) (q : SelectQuery) : Outcome SelectQuery → Outcome SelectQuery
  | .error (.rejected (.badValue field fault)) =>
    if rules.strict then .error (.rejected (.badValue field fault)) else .ok q
  | r => r

def applyCondition (rules : FilterRules) (w : Option Whitelist) (q : SelectQuery) (field : String) :
    Value → Outcome SelectQuery
  | .map condition => do
    match ← rules.operator? field condition with
    | none => return q
    | some name =>
      permitted w (·.filter field name)
      match rules.registry.get? name, Keyed.get? name condition with
      | some s, some value => rules.orSkip q (s.apply rules.strict q field value condition)
      | _, _ => return q
  | value => do
    permitted w (·.filter field Operator.eq.name)
    q.equals field value

def apply (rules : FilterRules) (w : Option Whitelist) (q : SelectQuery) (filters : Members) :
    Outcome SelectQuery :=
  filters.foldlM (fun q f => rules.applyCondition w q f.1 f.2) q

end FilterRules

end PagedSelect
