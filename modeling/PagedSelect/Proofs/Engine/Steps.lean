import PagedSelect.Proofs.Filter.Standard
import PagedSelect.Proofs.Select.Parameters
import PagedSelect.Search
import PagedSelect.Sort
/-!
# Queries built in steps

Clauses are not the only way to go on with a query: filters, searches and sort values are added by
translators, and the operators of filters may be a caller's own.  Whatever the steps and their order,
as long as a caller's operators use clauses, parameters and bindings match.
-/

namespace PagedSelect

/-! ## Strategies -/

/-- A strategy that goes on with a query by clauses only. -/
def Strategy.UsesClauses (s : Strategy) : Prop :=
  ∀ {strict : Bool} {q q' : SelectQuery} {field : String} {value : Value} {condition : Members},
    s.apply strict q field value condition = .ok q' → ∃ cs, q.applyAll cs = .ok q'

theorem applyAll_singleton (q : SelectQuery) (c : Clause) : q.applyAll [c] = c.apply q := by
  rw [SelectQuery.applyAll, List.foldlM_cons]
  cases c.apply q <;> rfl

/-- The text of a comparison stands for it. -/
theorem compareBy_symbol (q : SelectQuery) (field : String) (op : Comparison) (value : Value) :
    q.compareBy field op.symbol value = q.compare field op value := by
  have hop : Comparison.ofText? op.symbol = some op := by cases op <;> decide
  rw [SelectQuery.compareBy, hop]

theorem compare_clauses {q q' : SelectQuery} {field : String} {op : Comparison} {value : Value}
    (h : q.compare field op value = .ok q') :
    ∃ cs : List Clause, (∀ c ∈ cs, c.kind = .predicate) ∧ q.applyAll cs = .ok q' := by
  refine ⟨[.compare field (.text op.symbol) value], by simp [Clause.kind], ?_⟩
  rw [applyAll_singleton, Clause.apply, written_text, ok_bind, compareBy_symbol, h]

/-- The built-in operators go on with a query by clauses that add predicates. -/
theorem Operator.clauses {op : Operator} {strict : Bool} {q q' : SelectQuery} {field : String} {value : Value}
    {condition : Members} (h : op.apply strict q field value condition = .ok q') :
    ∃ cs : List Clause, (∀ c ∈ cs, c.kind = .predicate) ∧ q.applyAll cs = .ok q' := by
  have single {c : Clause} (hc : c.kind = .predicate) (h : c.apply q = .ok q') :
      ∃ cs : List Clause, (∀ c ∈ cs, c.kind = .predicate) ∧ q.applyAll cs = .ok q' :=
    ⟨[c], by simpa using hc, (applyAll_singleton q c).trans h⟩
  cases op with
  | isIn =>
    change Operator.applyIn q field value = .ok q' at h
    unfold Operator.applyIn at h
    split at h
    · cases h
    · cases h
    · rename_i items _ _
      exact single (c := .isIn field (.list items)) rfl h
  | between =>
    change Operator.applyBetween q field value = .ok q' at h
    unfold Operator.applyBetween at h
    split at h
    · rename_i low high _
      exact single (c := .between field low high) rfl h
    · cases h
  | like =>
    change (if value.isNull then _ else _) = _ at h
    split at h
    · cases h
    · obtain ⟨s, -, h⟩ := bind_eq_ok.1 h
      exact compare_clauses h
  | search =>
    change (if value.isNull then _ else _) = _ at h
    split at h
    · -- A search for nothing restricts nothing: it takes no clause.
      cases h
      exact ⟨[], by simp, rfl⟩
    · obtain ⟨s, -, h⟩ := bind_eq_ok.1 h
      exact single (c := .textSearch field (some s) (isExact condition)) rfl h
  | isNull =>
    change Operator.applyNull strict q field value = .ok q' at h
    unfold Operator.applyNull at h
    split at h
    · exact single (c := .isMissing field) rfl h
    · exact single (c := .isPresent field) rfl h
    · split at h
      · obtain ⟨_, -, h⟩ := bind_eq_ok.1 h
        cases h
      · exact single (c := .isPresent field) rfl h
  | _ => exact compare_clauses h

/-- The built-in operators use clauses. -/
theorem Operator.usesClauses (op : Operator) : op.strategy.UsesClauses := fun h =>
  have ⟨cs, _, hcs⟩ := Operator.clauses h
  ⟨cs, hcs⟩

/-- A registry of which every strategy uses clauses. -/
def Registry.UsesClauses (r : Registry) : Prop := ∀ e ∈ r.entries, e.2.UsesClauses

theorem standard_usesClauses : Registry.standard.UsesClauses := by
  intro e he
  rw [standard_entries] at he
  obtain ⟨op, -, rfl⟩ := List.mem_map.1 he
  exact op.usesClauses

/-! ## Effects of strategies -/

/-- Any amount may become a limit or an offset. -/
abbrev anyAmount : Quantity → Prop := fun _ => True

variable {A : Quantity → Prop} {q q' : SelectQuery} {w : Option Whitelist}

theorem amountsIn_any (c : Clause) : c.AmountsIn anyAmount := by
  cases c with
  | paginate page size =>
    cases page with
    | none => exact trivial
    | some page =>
      cases size with
      | none => exact trivial
      | some size => exact ⟨trivial, fun _ _ => trivial⟩
  | _ => exact trivial

/-- A clause that adds predicates has no amounts. -/
theorem amountsIn_of_predicate {c : Clause} (h : c.kind = .predicate) : c.AmountsIn A := by
  cases c with
  | limit n => cases h
  | offset n => cases h
  | paginate page size => cases h
  | _ => exact trivial

/-- A registry of which every strategy goes on with a query by effects only. -/
def Registry.HasEffects (A : Quantity → Prop) (r : Registry) : Prop :=
  ∀ e ∈ r.entries, ∀ {strict : Bool} {q q' : SelectQuery} {field : String} {value : Value} {condition : Members},
    e.2.apply strict q field value condition = .ok q' → Effects A q q'

theorem Registry.UsesClauses.hasEffects {r : Registry} (hr : r.UsesClauses) : r.HasEffects anyAmount := by
  intro e he strict q q' field value condition h
  obtain ⟨cs, hcs⟩ := hr e he h
  exact SelectQuery.applyAll_effects (fun c _ => amountsIn_any c) hcs

/-- The built-in operators have effects only, and none on limit or offset. -/
theorem standard_hasEffects : Registry.standard.HasEffects A := by
  intro e he strict q q' field value condition h
  rw [standard_entries] at he
  obtain ⟨op, -, rfl⟩ := List.mem_map.1 he
  obtain ⟨cs, hkind, hcs⟩ := Operator.clauses h
  exact SelectQuery.applyAll_effects (fun c hc => amountsIn_of_predicate (hkind c hc)) hcs

/-! ## Translators -/

theorem orSkip_effects {rules : FilterRules} {result : Outcome SelectQuery}
    (hr : ∀ q', result = .ok q' → Effects A q q') (h : rules.orSkip q result = .ok q') : Effects A q q' := by
  unfold FilterRules.orSkip at h
  split at h
  · split at h
    · cases h
    · cases h; exact .refl
  · exact hr q' h

theorem applyCondition_effects {rules : FilterRules} (hrules : rules.registry.HasEffects A) {field : String}
    {value : Value} (h : rules.applyCondition w q field value = .ok q') : Effects A q q' := by
  unfold FilterRules.applyCondition at h
  split at h
  · obtain ⟨name?, -, h⟩ := bind_eq_ok.1 h
    cases name? with
    | none => cases h; exact .refl
    | some name =>
      obtain ⟨_, -, h⟩ := bind_eq_ok.1 h
      split at h
      · rename_i s value hs _
        exact orSkip_effects (fun q₁ h₁ => hrules _ (mem_of_get? hs) h₁) h
      · cases h; exact .refl
  · obtain ⟨_, -, h⟩ := bind_eq_ok.1 h
    exact SelectQuery.compare_effects h

theorem applyFilters_effects {rules : FilterRules} (hrules : rules.registry.HasEffects A) {filters : Members}
    (h : rules.apply w q filters = .ok q') : Effects A q q' :=
  .of_foldlM (fun _ _ _ _ h => applyCondition_effects hrules h) h

theorem applySearch_effects {strict : Bool} {spec : Option SearchSpec}
    (h : applySearch strict w q spec = .ok q') : Effects A q q' := by
  cases spec with
  | none => cases h; exact .refl
  | some s =>
    rw [applySearch, SearchSpec.apply] at h
    split at h
    · cases h; exact .refl
    · split at h
      · obtain ⟨_, -, h⟩ := bind_eq_ok.1 h
        exact SelectQuery.searchAny_effects h
      · split at h
        · obtain ⟨_, -, h⟩ := bind_eq_ok.1 h
          exact SelectQuery.textSearch_effects h
        · split at h
          · cases h
          · cases h; exact .refl

theorem applyFields_effects {fields : List SortField} (h : SortField.applyFields w q fields = .ok q') :
    Effects A q q' := by
  refine .of_foldlM (fun f _ q q' h => ?_) h
  obtain ⟨_, -, h⟩ := bind_eq_ok.1 h
  exact SelectQuery.orderBy_effects h

theorem applySort_effects {strict : Bool} {raw : Value} (h : SortField.apply strict w q raw = .ok q') :
    Effects A q q' := by
  obtain ⟨fields, -, h⟩ := bind_eq_ok.1 h
  exact applyFields_effects h

/-! ## Steps -/

/-- One step of building a query: a clause, or what a translator adds. -/
inductive BuildStep where
  | clause (c : Clause)
  | filters (rules : FilterRules) (w : Option Whitelist) (members : Members)
  | search (strict : Bool) (w : Option Whitelist) (spec : Option SearchSpec)
  | sort (strict : Bool) (w : Option Whitelist) (raw : Value)

namespace BuildStep

/-- Carries out a step. -/
def apply (q : SelectQuery) : BuildStep → Outcome SelectQuery
  | clause c => c.apply q
  | filters rules w members => rules.apply w q members
  | search strict w spec => applySearch strict w q spec
  | sort strict w raw => SortField.apply strict w q raw

/-- A step of which the operators, if it has any, use clauses. -/
def UsesClauses : BuildStep → Prop
  | filters rules .. => rules.registry.UsesClauses
  | _ => True

theorem apply_effects {s : BuildStep} (hs : s.UsesClauses) (h : s.apply q = .ok q') :
    Effects anyAmount q q' := by
  cases s with
  | clause c => exact Clause.apply_effects (amountsIn_any c) h
  | filters rules w members => exact applyFilters_effects (Registry.UsesClauses.hasEffects hs) h
  | search strict w spec => exact applySearch_effects h
  | sort strict w raw => exact applySort_effects h

end BuildStep

namespace SelectQuery

/-- The query that steps build on a table. -/
def buildInSteps (table placeholder : String) (steps : List BuildStep) : Outcome SelectQuery := do
  steps.foldlM BuildStep.apply (← ofTable table placeholder)

theorem wellFormed_buildInSteps {table placeholder : String} {steps : List BuildStep}
    (hs : ∀ s ∈ steps, s.UsesClauses) (h : buildInSteps table placeholder steps = .ok q) :
    q.WellFormed anyAmount placeholder := by
  obtain ⟨q₀, h₀, h⟩ := bind_eq_ok.1 h
  exact (wellFormed_ofTable h₀).effects (.of_foldlM (fun s hmem _ _ h => s.apply_effects (hs s hmem) h) h)

/-- Parameters and bindings match: as many as there are numbers, named by their numbers in order, none
hidden by another, and each mentioned in the statement, which mentions no others. -/
theorem bindings_of_buildInSteps {table placeholder : String} {steps : List BuildStep}
    (hmark : IsParamMark placeholder) (hs : ∀ s ∈ steps, s.UsesClauses)
    (h : buildInSteps table placeholder steps = .ok q) :
    q.nextParam = q.bindings.length ∧
    Keyed.keys q.bindings = (List.range q.bindings.length).map paramName ∧
    q.parameters = q.bindings ∧
    ∀ text, q.sql = .ok text →
      (Text.mentions placeholder.toList text.toList).eraseDups = Keyed.keys q.bindings := by
  have hq := wellFormed_buildInSteps hs h
  refine ⟨hq.length_bindings.symm, ?_, hq.parameters_eq, fun text htext => ?_⟩
  · rw [hq.length_bindings, hq.names]
  · rw [hq.mentions_eraseDups hmark htext, hq.names]

theorem mentions_of_search : (Text.mentions ":".toList
    "SELECT * FROM users WHERE age BETWEEN :p0 AND :p1 AND (name LIKE :p2 OR email LIKE :p2) LIMIT 5".toList).eraseDups
    = ["p0", "p1", "p2"] := by
  -- The term reads like a parameter, but it is a value and comes into no text.
  have h : buildInSteps "users" ":"
      [.filters ⟨Registry.standard, true⟩ none [("age", .map [("between", .list [.int 1, .int 2])])],
        .search false none (some { fields := some ["name", "email"], term := some "p7" }),
        .clause (.limit (.whole 5))] = .ok _ := rfl
  refine (bindings_of_buildInSteps isParamMark_colon (fun s hs => ?_) h).2.2.2 _ rfl
  simp only [List.mem_cons, List.not_mem_nil, or_false] at hs
  rcases hs with rfl | rfl | rfl
  · exact standard_usesClauses
  · exact trivial
  · exact trivial

end SelectQuery

end PagedSelect
