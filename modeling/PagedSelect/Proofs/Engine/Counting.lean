import PagedSelect.Proofs.Engine.Exchange
import PagedSelect.Proofs.Engine.Steps
import PagedSelect.Proofs.Select.Interleaving
/-!
# Counting the rows of a query

A count keeps the predicates of a query with their parameters, and nothing else.  So it is the same for all
queries that were built with the same predicates, whatever their columns, their order and their pages are,
and whether rows were counted on the way.
-/

namespace PagedSelect

variable {A : Quantity → Prop} {q q' q₀ c : SelectQuery} {cs : List Clause} {label : String}

theorem Effects.table (h : Effects A q q') : q'.table = q.table := by
  refine Effects.keeps (P := fun p => p.table = q.table) (fun _ _ he hp => ?_) h rfl
  cases he <;> exact hp

namespace SelectQuery

/-! ## What a count looks at -/

/-- A count looks at the part that predicates make. -/
theorem counting_part (q : SelectQuery) (label : String) : (q.part .predicate).counting label = q.counting label :=
  rfl

theorem counting_congr (h : q.part .predicate = q'.part .predicate) (label : String) :
    q.counting label = q'.counting label := by
  rw [← counting_part q, h, counting_part]

/-- A count keeps what it looks at. -/
theorem part_counting (h : q.counting label = .ok c) : c.part .predicate = q.part .predicate := by
  obtain ⟨-, h⟩ := Identifier.check_bind_eq_ok.1 h
  cases h
  rfl

theorem parameters_part (q : SelectQuery) : (q.part .predicate).parameters = q.parameters := rfl

/-- The clauses that add predicates make what a count looks at. -/
theorem counting_of_predicates (h : q₀.applyAll cs = .ok q) :
    ∃ p, q₀.applyAll (cs.filter (·.kind = .predicate)) = .ok p ∧ q.part .predicate = p.part .predicate := by
  refine part_applyAll (fun c _ => ?_) rfl h
  by_cases hc : c.kind = .predicate
  · exact .inl hc
  · exact .inr ⟨hc, fun _ => rfl, nofun⟩

/-! ## The text of a count -/

theorem intercalate_whereClause (q : SelectQuery) (head : String) :
    " ".intercalate (head :: q.whereClause)
      = head ++ if q.predicates = [] then "" else " WHERE " ++ " AND ".intercalate q.predicateTexts := by
  unfold whereClause predicateTexts
  cases q.predicates with
  | nil => simp [listClause]
  | cons p r =>
    rw [List.map_cons, if_neg (List.cons_ne_nil _ _)]
    change " ".intercalate [head, "WHERE" ++ " " ++ _] = _
    rw [String.intercalate_cons_cons, String.intercalate_singleton]
    simp only [String.append_assoc]
    rfl

/-- A count has its statement, which shows the predicates of the query with their parameters. -/
theorem sql_of_counting (h : q.counting label = .ok c) :
    c.sql = .ok ("SELECT COUNT(1) AS " ++ label ++ " FROM " ++ q.table
      ++ if q.predicates = [] then "" else " WHERE " ++ " AND ".intercalate q.predicateTexts) := by
  obtain ⟨hlabel, -⟩ := Identifier.check_bind_eq_ok.1 h
  have hstatement : c.statement = q.countStatement label := by rw [countStatement, h, ok_bind]
  rw [countStatement_of_accepts hlabel] at hstatement
  obtain ⟨text, hsql, htext⟩ := map_eq_ok.1 hstatement
  rw [hsql, (Statement.mk.inj htext).1, intercalate_whereClause]

/-! ## Counts of queries with the same predicates -/

/-- What is counted for a query that clauses build is what is counted for the clauses alone that add predicates:
a count of these, with their parameters, which counting again does not change.  So queries that are built with
the same predicates have one count statement, and their rows are counted in the same way. -/
theorem counting_of_applyAll (h : q₀.applyAll cs = .ok q) (hlabel : Identifier.accepts label = true) :
    ∃ p c, q₀.applyAll (cs.filter (·.kind = .predicate)) = .ok p ∧
      q.counting label = .ok c ∧ p.counting label = .ok c ∧ c.counting label = .ok c ∧
      c.sql = .ok ("SELECT COUNT(1) AS " ++ label ++ " FROM " ++ q₀.table
        ++ if q.predicates = [] then "" else " WHERE " ++ " AND ".intercalate q.predicateTexts) ∧
      c.parameters = q.parameters ∧
      ∀ cs' q', q₀.applyAll cs' = .ok q' → cs'.filter (·.kind = .predicate) = cs.filter (·.kind = .predicate) →
        q'.countStatement label = q.countStatement label ∧ ∀ g : Engine, g.count q' = g.count q := by
  obtain ⟨p, hp, hpart⟩ := counting_of_predicates h
  obtain ⟨c, hc⟩ : ∃ c, q.counting label = .ok c := ⟨_, Identifier.check_bind_eq_ok.2 ⟨hlabel, rfl⟩⟩
  have htable : q.table = q₀.table := (applyAll_effects (fun c _ => amountsIn_any c) h).table
  refine ⟨p, c, hp, hc, ?_, ?_, ?_, ?_, fun cs' q' h' hcs => ?_⟩
  · rw [← counting_congr hpart, hc]
  · rw [counting_congr (part_counting hc), hc]
  · rw [sql_of_counting hc, htable]
  · rw [← parameters_part c, part_counting hc, parameters_part]
  · obtain ⟨p', hp', hpart'⟩ := counting_of_predicates h'
    rw [hcs, hp] at hp'
    cases hp'
    have hcount (label : String) : q'.countStatement label = q.countStatement label := by
      rw [countStatement, countStatement, counting_congr (hpart'.trans hpart.symm)]
    exact ⟨hcount label, fun g => by rw [Engine.count, Engine.count, hcount]⟩

/-- The open orders, counted on the way to the first of them. -/
def countedOrders : List Clause := [
  .limit (.whole 1),
  .equals "state" (.text "open"),
  .counting "n",
  .orderBy "id" .null,
  .compare "total" (.text ">") (.int 9)]

/-- The page of open orders and the first of them have one count. -/
theorem counting_of_openOrders : ∃ q q' c, allOrders.applyAll openOrders = .ok q ∧
    allOrders.applyAll countedOrders = .ok q' ∧ q.counting "orders" = .ok c ∧
    c.sql = .ok "SELECT COUNT(1) AS orders FROM orders WHERE state = :p0 AND total > :p1" ∧
    c.parameters = [("p0", .text "open"), ("p1", .int 9)] ∧ ∀ g : Engine, g.count q' = g.count q := by
  have h : allOrders.applyAll openOrders = .ok _ := rfl
  have h' : allOrders.applyAll countedOrders = .ok _ := rfl
  have hlabel : Identifier.accepts "orders" = true := by decide
  obtain ⟨-, c, -, hc, -, -, hsql, hparameters, hsame⟩ := counting_of_applyAll h hlabel
  exact ⟨_, _, c, h, h', hc, hsql, hparameters, (hsame _ _ h' rfl).2⟩

end SelectQuery

end PagedSelect
