import PagedSelect.Proofs.Select.Change
/-!
# Clauses of different kinds

A query has a part for each kind of clause.  A clause changes the part of its kind only, in a way that
depends on that part only, and whether it fails does not depend on the query at all.  So the order of
clauses of different kinds makes no difference: two runs with the same clauses of each kind, in the same
order among themselves, both fail or end with one query.
-/

namespace PagedSelect

variable {q q' q₁ : SelectQuery} {d : Change} {cs cs' : List Clause} {k : ClauseKind}

/-! ## Parts -/

/-- The part of a query that clauses of a kind change, with its table and its placeholder. -/
def SelectQuery.part (q : SelectQuery) : ClauseKind → SelectQuery
  | .projection =>
    { q with predicates := [], ordering := [], limit := none, offset := none, bindings := [], nextParam := 0 }
  | .predicate => { q with projection := .columns [], ordering := [], limit := none, offset := none }
  | .ordering =>
    { q with
      projection := .columns [], predicates := [], limit := none, offset := none, bindings := [], nextParam := 0 }
  | .window => { q with projection := .columns [], predicates := [], ordering := [], bindings := [], nextParam := 0 }
  | .counting => { q with predicates := [], bindings := [], nextParam := 0 }

/-- Two kinds of clauses that change nothing in common: a count changes all but the predicates. -/
def ClauseKind.Apart (k l : ClauseKind) : Prop :=
  k ≠ l ∧ (k = .counting → l = .predicate) ∧ (l = .counting → k = .predicate)

namespace Change

/-- A change of another kind leaves a part as it is. -/
theorem part_apply (h : d.kind.Apart k) : (d.apply q).part k = q.part k := by
  cases d with
  | restrict p =>
    cases p with
    | none => rfl
    | some p => cases k <;> first | rfl | exact absurd h (by simp [ClauseKind.Apart, kind])
  | _ => cases k <;> simp_all [ClauseKind.Apart, kind, apply, SelectQuery.part]

/-- What a change makes of its part depends on that part. -/
theorem part_apply_congr (h : q.part d.kind = q'.part d.kind) :
    (d.apply q).part d.kind = (d.apply q').part d.kind := by
  cases d with
  | restrict p =>
    cases p with
    | none => exact h
    | some p => simp_all [kind, apply, SelectQuery.part, SelectQuery.adding, SelectQuery.withPredicate]
  | _ => simp_all [kind, apply, SelectQuery.part]

end Change

/-- The parts make up the query. -/
theorem SelectQuery.eq_of_parts (h : ∀ k, k ≠ .counting → q.part k = q'.part k) : q = q' := by
  have hprojection := h .projection nofun
  have hpredicate := h .predicate nofun
  have hordering := h .ordering nofun
  have hwindow := h .window nofun
  cases q
  cases q'
  simp_all [part]

/-! ## Clauses -/

namespace SelectQuery

/-- The part of a kind is made by the clauses of that kind alone. -/
theorem part_applyAll (hcs : ∀ c ∈ cs, c.kind = k ∨ c.kind.Apart k) (hq : q.part k = q'.part k)
    (h : q.applyAll cs = .ok q₁) :
    ∃ q₂, q'.applyAll (cs.filter (·.kind = k)) = .ok q₂ ∧ q₁.part k = q₂.part k := by
  induction cs generalizing q q' with
  | nil =>
    cases h
    exact ⟨q', rfl, hq⟩
  | cons c r ih =>
    rw [List.forall_mem_cons] at hcs
    unfold applyAll at h ih ⊢
    rw [List.foldlM_cons] at h
    obtain ⟨q₀, h₀, h⟩ := bind_eq_ok.1 h
    obtain ⟨d, hkind, happly⟩ := c.uniform.exists_change h₀
    obtain rfl : d.apply q = q₀ := Except.ok.inj ((happly q).symm.trans h₀)
    -- A clause of the kind is carried out on both sides, on equal parts; any other leaves the part alone.
    by_cases hc : c.kind = k
    · rw [List.filter_cons_of_pos (by simpa using hc), List.foldlM_cons, happly, ok_bind]
      obtain rfl : d.kind = k := hkind.trans hc
      exact ih hcs.2 (Change.part_apply_congr hq) h
    · rw [List.filter_cons_of_neg (by simpa using hc)]
      have hapart : d.kind.Apart k := hkind ▸ hcs.1.resolve_left hc
      exact ih hcs.2 ((Change.part_apply hapart).trans hq) h

/-- Clauses of different kinds may change places: of two runs with the same clauses of each kind in order,
both succeed or none does, and they end with one query. -/
theorem applyAll_interleaved (q : SelectQuery) (hcs : ∀ c ∈ cs, c.kind ≠ .counting)
    (h : ∀ k, cs.filter (·.kind = k) = cs'.filter (·.kind = k)) :
    ((∃ q₁, q.applyAll cs = .ok q₁) ↔ ∃ q₂, q.applyAll cs' = .ok q₂) ∧
    ∀ q₁ q₂, q.applyAll cs = .ok q₁ → q.applyAll cs' = .ok q₂ → q₁ = q₂ := by
  have hmem (c : Clause) : c ∈ cs ↔ c ∈ cs' := by
    have hc := congrArg (c ∈ ·) (h c.kind)
    simpa using hc
  have hapart (k : ClauseKind) (hk : k ≠ .counting) : ∀ c ∈ cs, c.kind = k ∨ c.kind.Apart k := by
    intro c hc
    by_cases hck : c.kind = k
    · exact .inl hck
    · exact .inr ⟨hck, fun h => absurd h (hcs c hc), fun h => absurd h hk⟩
  refine ⟨?_, fun q₁ q₂ h₁ h₂ => eq_of_parts fun k hk => ?_⟩
  · unfold applyAll
    rw [exists_foldlM_iff Clause.uniform, exists_foldlM_iff Clause.uniform]
    exact forall_congr' fun c => by rw [hmem]
  · obtain ⟨p₁, hp₁, hpart₁⟩ := part_applyAll (hapart k hk) rfl h₁
    obtain ⟨p₂, hp₂, hpart₂⟩ := part_applyAll (fun c hc => hapart k hk c ((hmem c).2 hc)) rfl h₂
    rw [h k] at hp₁
    obtain rfl : p₁ = p₂ := Except.ok.inj (hp₁.symm.trans hp₂)
    exact hpart₁.trans hpart₂.symm

/-- All rows of the table of orders. -/
def allOrders : SelectQuery where
  table := "orders"
  placeholder := ":"
  projection := .columns ["*"]
  predicates := []
  ordering := []
  limit := none
  offset := none
  bindings := []
  nextParam := 0

/-- A page of open orders, asked for from its last part to its first. -/
def openOrdersBackwards : List Clause := [
  .paginate (some (.whole 2)) (some (.whole 5)),
  .orderBy "paid" .null,
  .equals "state" (.text "open"),
  .orderBy "id" (.text "desc"),
  .compare "total" (.text ">") (.int 9),
  .select ["id", "total"]]

/-- The same page, asked for in the order in which it is written. -/
def openOrders : List Clause := [
  .select ["id", "total"],
  .equals "state" (.text "open"),
  .compare "total" (.text ">") (.int 9),
  .orderBy "paid" .null,
  .orderBy "id" (.text "desc"),
  .paginate (some (.whole 2)) (some (.whole 5))]

/-- The two conditions keep their order, and so do the two keys; all else changes places. -/
theorem applyAll_openOrders : ∃ q, allOrders.applyAll openOrdersBackwards = .ok q ∧
    allOrders.applyAll openOrders = .ok q ∧
    q.sql = .ok ("SELECT id, total FROM orders WHERE state = :p0 AND total > :p1"
      ++ " ORDER BY paid ASC, id DESC LIMIT 5 OFFSET 5") := by
  have hcs : ∀ c ∈ openOrdersBackwards, c.kind ≠ .counting := by decide
  have hkinds (k : ClauseKind) : openOrdersBackwards.filter (·.kind = k) = openOrders.filter (·.kind = k) := by
    cases k <;> rfl
  obtain ⟨hiff, heq⟩ := applyAll_interleaved allOrders hcs hkinds
  have hbackwards : allOrders.applyAll openOrdersBackwards = .ok _ := rfl
  obtain ⟨q₂, h₂⟩ := hiff.1 ⟨_, hbackwards⟩
  refine ⟨_, hbackwards, ?_, rfl⟩
  rw [h₂, heq _ q₂ hbackwards h₂]

end SelectQuery

end PagedSelect
