import PagedSelect.Proofs.Select.Effect
/-!
# What holds of every query that is built

A query that starts at a table and goes through effects only is well-formed: its fields are
identifiers, its predicates use the parameters from zero on in order, and there is one binding for
each of them.
-/

namespace PagedSelect

/-- A query as steps of building leave it; `A` says which amounts its limit and offset may be. -/
structure SelectQuery.WellFormed (A : Quantity → Prop) (placeholder : String) (q : SelectQuery) : Prop where
  placeholder_eq : q.placeholder = placeholder
  table : Identifier.accepts q.table = true
  projection : q.projection.WellFormed
  predicates : ∀ p ∈ q.predicates, p.WellFormed
  ordering : ∀ t ∈ q.ordering, t.WellFormed
  params : q.predicates.flatMap Predicate.params = List.range q.nextParam
  names : Keyed.keys q.bindings = (List.range q.nextParam).map paramName
  limit : ∀ n ∈ q.limit, n.isPositive = true ∧ A n
  offset : ∀ n ∈ q.offset, n.isNatural = true ∧ A n

/-- The query that clauses build on a table. -/
def SelectQuery.build (table placeholder : String) (clauses : List Clause) : Outcome SelectQuery := do
  (← ofTable table placeholder).applyAll clauses

variable {A : Quantity → Prop} {placeholder : String} {q q' : SelectQuery}

namespace SelectQuery

theorem keys_numbered (first : Nat) (values : List Value) :
    Keyed.keys (numbered first values) = (List.range' first values.length).map paramName := by
  induction values generalizing first with
  | nil => rfl
  | cons v r ih =>
    simp only [numbered, Keyed.keys, List.map_cons, List.length_cons, List.range'_succ] at ih ⊢
    rw [ih]

theorem range_append_range' (m n : Nat) : List.range m ++ List.range' m n = List.range (m + n) := by
  rw [List.range_eq_range', List.range_eq_range']
  simpa using @List.range'_append 0 m n 1

theorem wellFormed_ofTable {table : String} (h : ofTable table placeholder = .ok q) :
    q.WellFormed A placeholder := by
  obtain ⟨t, ht, h⟩ := bind_eq_ok.1 h
  obtain ⟨ht, hacc⟩ := Identifier.ofValue_eq_ok.1 ht
  dsimp only at h
  split at h
  · cases h
  · cases h
    exact ⟨rfl, hacc, ⟨by simp, by simp⟩, by simp, by simp, rfl, rfl, by simp, by simp⟩

/-- Every effect keeps a query well-formed. -/
theorem WellFormed.effect (h : Effect A q q') (hq : q.WellFormed A placeholder) :
    q'.WellFormed A placeholder := by
  cases h with
  | project p hp => exact { hq with projection := hp }
  | restrict p values hp hn =>
    -- The new numbers go on where the old ones end, for parameters and for bindings alike.
    refine { hq with predicates := ?_, params := ?_, names := ?_ }
    · intro p' hp'
      rcases List.mem_append.1 hp' with hp' | hp'
      · exact hq.predicates p' hp'
      · rw [List.mem_singleton.1 hp']; exact hp
    · simp only [withPredicate, List.flatMap_append, List.flatMap_singleton, hq.params, hn]
      exact range_append_range' _ _
    · have hkeys := hq.names
      simp only [Keyed.keys] at hkeys
      simp only [withPredicate, Keyed.keys, List.map_append, hkeys]
      rw [← range_append_range', List.map_append]
      congr 1
      exact keys_numbered q.nextParam values
  | order t ht =>
    refine { hq with ordering := ?_ }
    intro t' ht'
    rcases List.mem_append.1 ht' with ht' | ht'
    · exact hq.ordering t' ht'
    · rw [List.mem_singleton.1 ht']; exact ht
  | limit n hn hA => exact { hq with limit := by simp [hn, hA] }
  | offset n hn hA => exact { hq with offset := by simp [hn, hA] }
  | count label hl =>
    exact { hq with projection := hl, ordering := by simp, limit := by simp, offset := by simp }

theorem WellFormed.effects (h : Effects A q q') (hq : q.WellFormed A placeholder) :
    q'.WellFormed A placeholder :=
  Effects.keeps (fun _ _ => WellFormed.effect) h hq

/-- What clauses build on a table is well-formed. -/
theorem wellFormed_build {table : String} {cs : List Clause} (hcs : ∀ c ∈ cs, c.AmountsIn A)
    (h : build table placeholder cs = .ok q) : q.WellFormed A placeholder := by
  obtain ⟨q₀, h₀, h⟩ := bind_eq_ok.1 h
  exact (wellFormed_ofTable h₀).effects (applyAll_effects hcs h)

end SelectQuery

end PagedSelect
