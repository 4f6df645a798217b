import PagedSelect.Proofs.Select.Readable
/-!
# A statement determines its query

The tokens of a statement are read from the left, part by part.  So two queries with one text have
the same parts, whatever names, comparisons and values the callers chose.
-/

namespace PagedSelect

open Text

/-! ## Statements -/

/-- Two queries with the same parts; amounts count as the whole numbers they are. -/
structure SelectQuery.SameParts (q q' : SelectQuery) : Prop where
  table : q.table = q'.table
  projection : q.projection = q'.projection
  predicates : q.predicates = q'.predicates
  ordering : q.ordering = q'.ordering
  limit : q.limit.map Quantity.int? = q'.limit.map Quantity.int?
  offset : q.offset.map Quantity.int? = q'.offset.map Quantity.int?

/-- The amounts that a caller gives for a clause. -/
def Clause.amounts : Clause → List Quantity
  | limit n | offset n => [n]
  | paginate page size => page.toList ++ size.toList
  | _ => []

/-- A clause whose amounts are whole numbers or flags. -/
def Clause.IsWhole (c : Clause) : Prop := ∀ n ∈ c.amounts, n.int?.isSome = true

theorem times?_whole {m n k : Quantity} (hm : m.int?.isSome = true) (hn : n.int?.isSome = true)
    (h : m.minusOne.times? n = some k) : k.int?.isSome = true := by
  have hm' : m.minusOne.int?.isSome = true := by
    cases m with
    | real x => simp [Quantity.int?] at hm
    | _ => rfl
  obtain ⟨i, hi⟩ := Option.isSome_iff_exists.1 hm'
  obtain ⟨j, hj⟩ := Option.isSome_iff_exists.1 hn
  simp only [Quantity.times?, hi, hj, Option.some.injEq] at h
  rw [← h]
  rfl

theorem Clause.IsWhole.amountsIn {c : Clause} (h : c.IsWhole) :
    c.AmountsIn fun n => n.int?.isSome = true := by
  cases c with
  | limit n => exact h n (by simp [amounts])
  | offset n => exact h n (by simp [amounts])
  | paginate page size =>
    cases page with
    | none => exact trivial
    | some page =>
      cases size with
      | none => exact trivial
      | some size =>
        have hpage := h page (by simp [amounts])
        have hsize := h size (by simp [amounts])
        exact ⟨hsize, fun n hn => times?_whole hpage hsize hn⟩
  | _ => exact trivial

theorem isCount_of_isPositive {n : Quantity} (hn : n.isPositive = true) (hi : n.int?.isSome = true) :
    n.IsCount := by
  cases n with
  | whole i => exact ⟨i, by simp [Quantity.isPositive] at hn; omega, rfl⟩
  | flag b => exact ⟨_, by cases b <;> decide, rfl⟩
  | real x => simp [Quantity.int?] at hi

theorem isCount_of_isNatural {n : Quantity} (hn : n.isNatural = true) (hi : n.int?.isSome = true) :
    n.IsCount := by
  cases n with
  | whole i => exact ⟨i, by simpa [Quantity.isNatural] using hn, rfl⟩
  | flag b => exact ⟨_, by cases b <;> decide, rfl⟩
  | real x => simp [Quantity.int?] at hi

theorem tokens_where : tokens "WHERE" = ["WHERE".toList] := rfl

theorem tokens_orderBy : tokens "ORDER BY" = ["ORDER".toList, "BY".toList] := rfl

/-- Well-formed queries with one text have the same parts. -/
theorem SelectQuery.sameParts_of_tokens {mark : String} {q q' : SelectQuery}
    (hq : q.WellFormed (fun n => n.int?.isSome = true) mark)
    (hq' : q'.WellFormed (fun n => n.int?.isSome = true) mark) (h : q.tokens = q'.tokens) :
    q.SameParts q' := by
  simp only [SelectQuery.tokens, List.cons.injEq, true_and, hq.placeholder_eq, hq'.placeholder_eq,
    List.append_assoc] at h
  obtain ⟨hproj, h⟩ := Projection.readable hq.projection hq'.projection h
  obtain ⟨htable, h⟩ := List.cons.inj h
  -- What may follow a clause is read off the clauses behind it, the last one first.
  have start (q : SelectQuery) := (StartsIn.nil []).amountTokens "OFFSET" q.offset
  simp only [List.append_nil] at start
  have start₂ (q : SelectQuery) := (start q).amountTokens "LIMIT" q.limit
  have start₃ (q : SelectQuery) := (start₂ q).listTokens tokens_orderBy [','] (q.ordering.map OrderTerm.tokens)
  obtain ⟨hpred, h⟩ := (Predicate.readable mark).listTokens tokens_where hq.predicates hq'.predicates
    (start₃ q) (start₃ q') (by decide) (by decide) h
  obtain ⟨hord, h⟩ := OrderTerm.readable.listTokens tokens_orderBy hq.ordering hq'.ordering (start₂ q)
    (start₂ q') (by decide) (by decide) h
  obtain ⟨hlimit, h⟩ := amountTokens_injective
    (fun a ha => isCount_of_isPositive (hq.limit a ha).1 (hq.limit a ha).2)
    (fun a ha => isCount_of_isPositive (hq'.limit a ha).1 (hq'.limit a ha).2) (start q) (start q')
    (by decide) h
  rw [← List.append_nil (amountTokens "OFFSET" q.offset),
    ← List.append_nil (amountTokens "OFFSET" q'.offset)] at h
  obtain ⟨hoffset, -⟩ := amountTokens_injective
    (fun a ha => isCount_of_isNatural (hq.offset a ha).1 (hq.offset a ha).2)
    (fun a ha => isCount_of_isNatural (hq'.offset a ha).1 (hq'.offset a ha).2) (StartsIn.nil [])
    (StartsIn.nil []) (by decide) h
  exact ⟨String.toList_inj.1 htable, hproj, hpred, hord, hlimit, hoffset⟩

/-- Two queries that clauses build and that have one text have the same parts. -/
theorem SelectQuery.sameParts_of_sql_eq {mark table table' text : String} {cs cs' : List Clause}
    {q q' : SelectQuery} (hmark : IsParamMark mark) (hcs : ∀ c ∈ cs, c.IsWhole) (hcs' : ∀ c ∈ cs', c.IsWhole)
    (hq : build table mark cs = .ok q) (hq' : build table' mark cs' = .ok q') (htext : q.sql = .ok text)
    (htext' : q'.sql = .ok text) : q.SameParts q' := by
  have hw := wellFormed_build (fun c hc => (hcs c hc).amountsIn) hq
  have hw' := wellFormed_build (fun c hc => (hcs' c hc).amountsIn) hq'
  exact sameParts_of_tokens hw hw' ((tokens_sql hmark hw htext).symm.trans (tokens_sql hmark hw' htext'))

/-- The value that is bound, the order of the steps and the form of the amount leave no mark. -/
theorem sameParts_of_one_row : ∃ q q' : SelectQuery,
    SelectQuery.build "users" ":" [.limit (.flag true), .equals "name" (.text "LIMIT 2")] = .ok q ∧
    SelectQuery.build "users" ":" [.equals "name" .null, .limit (.whole 1)] = .ok q' ∧
    q.sql = .ok "SELECT * FROM users WHERE name = :p0 LIMIT 1" ∧ q.SameParts q' := by
  refine ⟨?q, ?r, ?first, ?second, ?text,
    SelectQuery.sameParts_of_sql_eq isParamMark_colon ?_ ?_ ?first ?second ?text ?_⟩
  case first => rfl
  case second => rfl
  case text => rfl
  · simp [Clause.IsWhole, Clause.amounts, Quantity.int?]
  · simp [Clause.IsWhole, Clause.amounts, Quantity.int?]
  · rfl

end PagedSelect
