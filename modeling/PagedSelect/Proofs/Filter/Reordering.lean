import PagedSelect.Proofs.Filter.Standard
import PagedSelect.Proofs.Select.Interleaving
import PagedSelect.Proofs.Select.Renumbering
import PagedSelect.Search
/-!
# Filters in another order

A filter, and a search too, asks the same of every query: a predicate, nothing, or a failure.  So the order
of the filters decides the numbers of the parameters and the order of the predicates, and nothing else.
-/

namespace PagedSelect

/-! ## What a filter asks for -/

theorem exists_operator {name : String} {s : Strategy} (h : Registry.standard.get? name = some s) :
    ∃ op : Operator, s = op.strategy := by
  have hentry : (name, s) ∈ Registry.standard.entries := mem_of_get? h
  rw [standard_entries] at hentry
  obtain ⟨op, -, hop⟩ := List.mem_map.1 hentry
  exact ⟨op, (Prod.mk.inj hop).2.symm⟩

namespace Operator

open SelectQuery

theorem refuse_uniform (field : String) (fault : ConditionFault) :
    Uniform .predicate fun _ => refuse field fault := .failure _ _

theorem applyIn_uniform (field : String) (v : Value) : Uniform .predicate (applyIn · field v) := by
  unfold applyIn
  cases v.sequence? with
  | none => exact refuse_uniform _ _
  | some items =>
    cases items with
    | nil => exact refuse_uniform _ _
    | cons item r => exact isIn_uniform field (item :: r)

theorem applyBetween_uniform (field : String) (v : Value) : Uniform .predicate (applyBetween · field v) := by
  by_cases h : (v.sequence?.getD []).length = 2
  · obtain ⟨low, high, happly⟩ := applyBetween_pair h
    simp only [happly]
    exact between_uniform field low high
  · simp only [applyBetween_refused h]
    exact refuse_uniform _ _

theorem applyNull_uniform (strict : Bool) (field : String) (v : Value) :
    Uniform .predicate (applyNull strict · field v) := by
  have hother : Uniform .predicate fun q =>
      if strict then do
        checkWritable [v]
        refuse field (.notFlag v)
      else q.isPresent field :=
    .ite _ (.bind _ fun _ => refuse_uniform _ _) (isPresent_uniform field)
  cases v with
  | bool flag =>
    cases flag with
    | true => exact isMissing_uniform field
    | false => exact isPresent_uniform field
  | _ => exact hother

/-- Every operator asks the same of every query. -/
theorem uniform (strict : Bool) (field : String) (v : Value) (condition : Members) (op : Operator) :
    Uniform .predicate (op.apply strict · field v condition) := by
  cases op with
  | eq => exact compare_uniform field .equal v
  | ne => exact compare_uniform field .notEqual v
  | gt => exact compare_uniform field .greater v
  | gte => exact compare_uniform field .greaterEqual v
  | lt => exact compare_uniform field .less v
  | lte => exact compare_uniform field .lessEqual v
  | isIn => exact applyIn_uniform field v
  | between => exact applyBetween_uniform field v
  | like => exact .ite _ (refuse_uniform _ _) (.bind _ fun s => compare_uniform field .like (.text s))
  | search => exact .ite _ .pass (.bind _ fun s => textSearch_uniform field s (isExact condition))
  | isNull => exact applyNull_uniform strict field v

end Operator

namespace FilterRules

/-- A refused value that is passed over asks for nothing. -/
theorem orSkip_uniform (rules : FilterRules) {step : SelectQuery → Outcome SelectQuery}
    (h : Uniform .predicate step) : Uniform .predicate fun q => rules.orSkip q (step q) := by
  obtain ⟨asked, hkind, hstep⟩ := h
  simp only [hstep]
  cases asked with
  | ok d => exact ⟨.ok d, hkind, fun _ => rfl⟩
  | error f =>
    unfold orSkip
    simp only [Except.map]
    split
    · exact .ite _ (.failure _ _) .pass
    · exact .failure _ _

/-- One filter, by the built-in operators. -/
def applyFilter (strict : Bool) (w : Option Whitelist) (q : SelectQuery) (filter : String × Value) :
    Outcome SelectQuery :=
  (standardRules strict).applyCondition w q filter.1 filter.2

/-- A filter asks the same of every query, by the built-in operators. -/
theorem applyFilter_uniform (strict : Bool) (w : Option Whitelist) (filter : String × Value) :
    Uniform .predicate (applyFilter strict w · filter) := by
  obtain ⟨field, v⟩ := filter
  cases v with
  | map condition =>
    refine .bind _ fun name? => ?_
    cases name? with
    | none => exact .pass
    | some name =>
      refine .bind _ fun _ => ?_
      cases hs : Registry.standard.get? name with
      | none => exact .pass
      | some s =>
        obtain ⟨op, rfl⟩ := exists_operator hs
        cases Keyed.get? name condition with
        | none => exact .pass
        | some value => exact orSkip_uniform _ (op.uniform strict field value condition)
  | _ => exact .bind _ fun _ => SelectQuery.compare_uniform field .equal _

end FilterRules

/-! ## What a search asks for -/

theorem SearchSpec.uniform (strict : Bool) (w : Option Whitelist) (s : SearchSpec) :
    Uniform .predicate (s.apply strict w ·) := by
  refine .ite _ .pass (.ite _ (.bind _ fun _ => SelectQuery.searchAny_uniform _ _) ?_)
  cases s.field.filter (· ≠ "") with
  | some field => exact .bind _ fun _ => SelectQuery.textSearch_uniform field _ s.exact
  | none => exact .ite _ (.failure _ _) .pass

theorem applySearch_uniform (strict : Bool) (w : Option Whitelist) (s : Option SearchSpec) :
    Uniform .predicate (applySearch strict w · s) := by
  cases s with
  | none => exact .pass
  | some s => exact s.uniform strict w

/-! ## Filters and a search in any order -/

namespace FilterRules

/-- One filter, or the search in its place. -/
def applyFilterOr (search : SelectQuery → Outcome SelectQuery) (strict : Bool) (w : Option Whitelist)
    (q : SelectQuery) : Option (String × Value) → Outcome SelectQuery
  | some filter => applyFilter strict w q filter
  | none => search q

/-- Filters in another order succeed as well, and they add the same predicates with the same values, under
parameters that are numbered anew; and so does a search in front of the filters instead of behind them. -/
theorem apply_reordered {filters filters' : Members} (h : filters.Perm filters') (strict : Bool)
    (w : Option Whitelist) (q : SelectQuery) :
    ((∃ q₁, (standardRules strict).apply w q filters = .ok q₁) ↔
      ∃ q₂, (standardRules strict).apply w q filters' = .ok q₂) ∧
    (∀ q₁ q₂, (standardRules strict).apply w q filters = .ok q₁ →
      (standardRules strict).apply w q filters' = .ok q₂ →
      Reordered (applyFilter strict w) q filters filters' q₁ q₂) ∧
    ∀ (strict' : Bool) (w' : Option Whitelist) (s : Option SearchSpec) (q₁ q₂ : SelectQuery),
      (do applySearch strict' w' (← (standardRules strict).apply w q filters) s) = .ok q₁ →
      (do (standardRules strict).apply w (← applySearch strict' w' q s) filters) = .ok q₂ →
      Reordered (applyFilterOr (applySearch strict' w' · s) strict w) q (filters.map some ++ [none])
        (none :: filters.map some) q₁ q₂ := by
  obtain ⟨hiff, hreordered⟩ := foldlM_reordered (applyFilter_uniform strict w) h q
  refine ⟨hiff, hreordered, fun strict' w' s q₁ q₂ h₁ h₂ => ?_⟩
  have hstep (e : Option (String × Value)) :
      Uniform .predicate (applyFilterOr (applySearch strict' w' · s) strict w · e) := by
    cases e with
    | some filter => exact applyFilter_uniform strict w filter
    | none => exact applySearch_uniform strict' w' s
  have hperm : (filters.map some ++ [none]).Perm (none :: filters.map some) := List.perm_append_singleton _ _
  refine (foldlM_reordered hstep hperm q).2 q₁ q₂ ?_ ?_
  · rw [List.foldlM_append, List.foldlM_map, ← h₁]
    simp only [List.foldlM_cons, List.foldlM_nil, bind_pure]
    rfl
  · rw [List.foldlM_cons, ← h₂]
    simp only [List.foldlM_map]
    rfl

/-- Filters for orders from an amount on and in one of two states; the filter between them has no choices, and
is passed over. -/
def largeOrders : Members := [
  ("total", .map [("gte", .int 9)]),
  ("note", .map [("in", .list [])]),
  ("state", .map [("in", .list [.text "open", .text "held"])])]

/-- Backwards, the states come first and take the first two parameters; behind a search, the amount takes the
second and the states the last two. -/
theorem apply_largeOrders :
    (∃ q₁ q₂, (standardRules false).apply none SelectQuery.allOrders largeOrders = .ok q₁ ∧
      (standardRules false).apply none SelectQuery.allOrders largeOrders.reverse = .ok q₂ ∧
      q₁.predicateTexts = ["total >= :p0", "state IN (:p1, :p2)"] ∧
      q₂.predicateTexts = ["state IN (:p0, :p1)", "total >= :p2"] ∧
      Reordered (applyFilter false none) SelectQuery.allOrders largeOrders largeOrders.reverse q₁ q₂) ∧
    ∃ q₁ q₂, q₁.predicateTexts = ["total >= :p0", "state IN (:p1, :p2)", "note LIKE :p3"] ∧
      q₂.predicateTexts = ["note LIKE :p0", "total >= :p1", "state IN (:p2, :p3)"] ∧
      Reordered (applyFilterOr (applySearch false none · (some { field := some "note", term := some "late" }))
        false none) SelectQuery.allOrders (largeOrders.map some ++ [none]) (none :: largeOrders.map some) q₁ q₂ := by
  have hperm : largeOrders.Perm largeOrders.reverse := (List.reverse_perm _).symm
  obtain ⟨-, hreordered, hsearch⟩ := apply_reordered hperm false none SelectQuery.allOrders
  refine ⟨⟨_, _, rfl, rfl, rfl, rfl, hreordered _ _ rfl rfl⟩, ?_⟩
  exact ⟨_, _, rfl, rfl, hsearch false none (some { field := some "note", term := some "late" }) _ _ rfl rfl⟩

end FilterRules

end PagedSelect
