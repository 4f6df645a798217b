import Mathlib.Logic.Relation
import PagedSelect.Proofs.Outcome
import PagedSelect.Select.Clause
/-!
# What a clause does to a query

`Effect` lists all that a step of building can do to a query, and `Clause.apply_effects` says that a
clause does nothing else.  An invariant that every effect keeps therefore holds of every query that
clauses build.
-/

namespace PagedSelect

/-! ## Well-formed parts -/

/-- The numbers of the parameters of a predicate, each once and in order. -/
def Predicate.params : Predicate → List Nat
  | comparison _ _ n | anyLike _ n => [n]
  | membership _ ns => ns
  | range _ low high => [low, high]
  | missing _ | present _ | given _ => []

/-- The fields of a predicate. -/
def Predicate.fields : Predicate → List String
  | comparison field _ _ | membership field _ | range field _ _ | missing field | present field => [field]
  | anyLike fields _ => fields
  | given _ => []

/-- A predicate of which every field is an identifier and no list is empty. -/
def Predicate.WellFormed : Predicate → Prop
  | comparison field _ _ | range field _ _ | missing field | present field => Identifier.accepts field = true
  | membership field ns => Identifier.accepts field = true ∧ ns ≠ []
  | anyLike fields _ => fields ≠ [] ∧ ∀ f ∈ fields, Identifier.accepts f = true
  | given _ => False

/-- An order term whose field is an identifier. -/
def OrderTerm.WellFormed : OrderTerm → Prop
  | column field _ => Identifier.accepts field = true
  | given _ => False

/-- A projection to one column or more, or to a count under an identifier. -/
def Projection.WellFormed : Projection → Prop
  | columns names => names ≠ [] ∧ ∀ n ∈ names, n = "*" ∨ Identifier.accepts n = true
  | count label => Identifier.accepts label = true

/-! ## Effects -/

/-- All that a step can do to a query; `A` says which amounts may become a limit or an offset. -/
inductive Effect (A : Quantity → Prop) (q : SelectQuery) : SelectQuery → Prop
  | project (p : Projection) (hp : p.WellFormed) : Effect A q { q with projection := p }
  | restrict (p : Predicate) (values : List Value) (hp : p.WellFormed)
      (hn : p.params = List.range' q.nextParam values.length) : Effect A q (q.withPredicate p values)
  | order (t : OrderTerm) (ht : t.WellFormed) : Effect A q { q with ordering := q.ordering ++ [t] }
  | limit (n : Quantity) (hn : n.isPositive = true) (hA : A n) : Effect A q { q with limit := some n }
  | offset (n : Quantity) (hn : n.isNatural = true) (hA : A n) : Effect A q { q with offset := some n }
  | count (label : String) (hl : Identifier.accepts label = true) :
      Effect A q { q with projection := .count label, ordering := [], limit := none, offset := none }

/-- Any number of effects, one after another. -/
abbrev Effects (A : Quantity → Prop) : SelectQuery → SelectQuery → Prop :=
  Relation.ReflTransGen (Effect A)

variable {A : Quantity → Prop} {q q' : SelectQuery}

/-- What every effect keeps, all effects together keep. -/
theorem Effects.keeps {P : SelectQuery → Prop} (hstep : ∀ q q', Effect A q q' → P q → P q')
    (h : Effects A q q') (hq : P q) : P q' := by
  induction h with
  | refl => exact hq
  | tail _ he ih => exact hstep _ _ he ih

/-- Steps that have effects only have effects only one after another. -/
theorem Effects.of_foldlM {α : Type} {step : SelectQuery → α → Outcome SelectQuery} {items : List α}
    (hstep : ∀ a ∈ items, ∀ q q', step q a = .ok q' → Effects A q q') (h : items.foldlM step q = .ok q') :
    Effects A q q' := by
  induction items generalizing q with
  | nil => cases h; exact .refl
  | cons a r ih =>
    rw [List.foldlM_cons] at h
    obtain ⟨q₁, h₁, h⟩ := bind_eq_ok.1 h
    exact (hstep a (by simp) q q₁ h₁).trans (ih (fun b hb => hstep b (by simp [hb])) h)

/-! ## Operations -/

namespace SelectQuery

theorem select_effects {columns : List String} (h : q.select columns = .ok q') : Effects A q q' := by
  cases columns with
  | nil => cases h; exact .refl
  | cons c r =>
    obtain ⟨⟨⟩, hall, h⟩ := bind_eq_ok.1 h
    cases h
    refine .single (.project _ ⟨by simp, fun n hn => ?_⟩)
    have hcheck := forM_eq_ok.1 hall n hn
    unfold checkColumn at hcheck
    split at hcheck
    · exact .inl ‹_›
    · obtain ⟨s, hs, -⟩ := map_eq_ok.1 hcheck
      exact .inr (Identifier.check_eq_ok.1 hs).1

theorem compare_effects {field : String} {op : Comparison} {v : Value} (h : q.compare field op v = .ok q') :
    Effects A q q' := by
  obtain ⟨hf, h⟩ := Identifier.check_bind_eq_ok.1 h
  cases h
  exact .single (.restrict _ _ hf rfl)

theorem compareBy_effects {field operator : String} {v : Value}
    (h : q.compareBy field operator v = .ok q') : Effects A q q' := by
  unfold compareBy at h
  split at h
  · exact compare_effects h
  · cases h

theorem isIn_effects {field : String} {values : List Value} (h : q.isIn field values = .ok q') :
    Effects A q q' := by
  cases values with
  | nil => cases h; exact .refl
  | cons v r =>
    obtain ⟨hf, h⟩ := Identifier.check_bind_eq_ok.1 h
    cases h
    exact .single (.restrict _ _ ⟨hf, by simp⟩ rfl)

theorem between_effects {field : String} {low high : Value} (h : q.between field low high = .ok q') :
    Effects A q q' := by
  obtain ⟨hf, h⟩ := Identifier.check_bind_eq_ok.1 h
  cases h
  exact .single (.restrict _ _ hf rfl)

theorem isMissing_effects {field : String} (h : q.isMissing field = .ok q') : Effects A q q' := by
  obtain ⟨hf, h⟩ := Identifier.check_bind_eq_ok.1 h
  cases h
  exact .single (.restrict _ _ hf rfl)

theorem isPresent_effects {field : String} (h : q.isPresent field = .ok q') : Effects A q q' := by
  obtain ⟨hf, h⟩ := Identifier.check_bind_eq_ok.1 h
  cases h
  exact .single (.restrict _ _ hf rfl)

theorem textSearch_effects {field term : String} {exact : Bool}
    (h : q.textSearch field term exact = .ok q') : Effects A q q' := by
  unfold textSearch at h
  split at h
  · cases h; exact .refl
  · split at h <;> exact compare_effects h

theorem searchAny_effects {fields : List String} {term : String} (h : q.searchAny fields term = .ok q') :
    Effects A q q' := by
  unfold searchAny at h
  split at h
  · cases h; exact .refl
  · rename_i hne
    obtain ⟨⟨⟩, hall, h⟩ := bind_eq_ok.1 h
    cases h
    refine .single (.restrict _ _ ⟨by rintro rfl; simp at hne, fun f hf => ?_⟩ rfl)
    obtain ⟨s, hs, -⟩ := map_eq_ok.1 (forM_eq_ok.1 hall f hf)
    exact (Identifier.check_eq_ok.1 hs).1

theorem orderBy_effects {field : String} {d : Direction} (h : q.orderBy field d = .ok q') :
    Effects A q q' := by
  obtain ⟨hf, h⟩ := Identifier.check_bind_eq_ok.1 h
  cases h
  exact .single (.order _ hf)

theorem orderByAll_effects {terms : List (String × Direction)} (h : q.orderByAll terms = .ok q') :
    Effects A q q' :=
  .of_foldlM (fun _ _ _ _ h => orderBy_effects h) h

theorem withLimit_effects {n : Quantity} (hA : A n) : Effects A q (q.withLimit n) := by
  unfold withLimit
  split
  · exact .single (.limit n ‹_› hA)
  · exact .refl

theorem withOffset_effects {n : Quantity} (hA : A n) : Effects A q (q.withOffset n) := by
  unfold withOffset
  split
  · exact .single (.offset n ‹_› hA)
  · exact .refl

theorem paginate_effects {page size : Quantity} (hsize : A size)
    (hoffset : ∀ n, page.minusOne.times? size = some n → A n) (h : q.paginate page size = .ok q') :
    Effects A q q' := by
  unfold paginate at h
  split at h
  · split at h
    · rename_i n hn
      cases h
      exact (withLimit_effects hsize).trans (withOffset_effects (hoffset n hn))
    · cases h
  · cases h; exact .refl

theorem counting_effects {label : String} (h : q.counting label = .ok q') : Effects A q q' := by
  obtain ⟨hl, h⟩ := Identifier.check_bind_eq_ok.1 h
  cases h
  exact .single (.count _ hl)

end SelectQuery

/-! ## Clauses -/

/-- The amounts of a clause, and what it computes from them, are all of a kind. -/
def Clause.AmountsIn (A : Quantity → Prop) : Clause → Prop
  | limit n | offset n => A n
  | paginate (some page) (some size) => A size ∧ ∀ n, page.minusOne.times? size = some n → A n
  | _ => True

/-- A clause has effects only. -/
theorem Clause.apply_effects {c : Clause} (hc : c.AmountsIn A) (h : c.apply q = .ok q') :
    Effects A q q' := by
  cases c with
  | select columns => exact SelectQuery.select_effects h
  | compare field operator value =>
    obtain ⟨s, -, h⟩ := bind_eq_ok.1 h
    exact SelectQuery.compareBy_effects h
  | equals field value => exact SelectQuery.compare_effects h
  | isIn field values =>
    obtain ⟨vs, -, h⟩ := bind_eq_ok.1 h
    exact SelectQuery.isIn_effects h
  | between field low high => exact SelectQuery.between_effects h
  | isMissing field => exact SelectQuery.isMissing_effects h
  | isPresent field => exact SelectQuery.isPresent_effects h
  | textSearch field term exact => exact SelectQuery.textSearch_effects h
  | searchAny fields term => exact SelectQuery.searchAny_effects h
  | orderBy field direction => exact SelectQuery.orderBy_effects h
  | orderByAll terms => exact SelectQuery.orderByAll_effects h
  | limit n => cases h; exact SelectQuery.withLimit_effects hc
  | offset n => cases h; exact SelectQuery.withOffset_effects hc
  | paginate page size =>
    cases page with
    | none => cases h; exact .refl
    | some page =>
      cases size with
      | none => cases h; exact .refl
      | some size => exact SelectQuery.paginate_effects hc.1 hc.2 h
  | counting label => exact SelectQuery.counting_effects h

theorem SelectQuery.applyAll_effects {cs : List Clause} (hcs : ∀ c ∈ cs, c.AmountsIn A)
    (h : q.applyAll cs = .ok q') : Effects A q q' :=
  .of_foldlM (fun c hc _ _ h => Clause.apply_effects (hcs c hc) h) h

end PagedSelect
