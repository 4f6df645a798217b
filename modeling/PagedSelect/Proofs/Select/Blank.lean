import Mathlib.Data.List.Forall2
import PagedSelect.Proofs.Keyed
import PagedSelect.Proofs.Outcome
import PagedSelect.Select.Build
/-!
# Queries without their values

A blank query keeps everything but the values of its parameters.  What a query writes depends on its
blank only, and so does what an operation makes of it: values are counted, and never looked at.
-/

namespace PagedSelect

/-- A query of which every value is null. -/
def SelectQuery.blank (q : SelectQuery) : SelectQuery :=
  { q with bindings := q.bindings.map fun b => (b.1, .null) }

/-- A failure without the details of a refused value. -/
def Failure.blank : Failure → Failure
  | .rejected (.badValue field _) => .rejected (.badValue field (.other ""))
  | f => f

/-- What an outcome shows without the values. -/
def blankOutcome : Outcome SelectQuery → Outcome SelectQuery
  | .ok q => .ok q.blank
  | .error f => .error f.blank

/-- Two outcomes that differ in values only. -/
def Alike (x x' : Outcome SelectQuery) : Prop := blankOutcome x = blankOutcome x'

variable {q q' : SelectQuery}

/-! ## Outcomes -/

theorem Alike.refl (x : Outcome SelectQuery) : Alike x x := rfl

theorem Alike.ok (h : q.blank = q'.blank) : Alike (.ok q) (.ok q') := congrArg Except.ok h

theorem Alike.refused (field : String) (fault fault' : ConditionFault) :
    Alike (reject (.badValue field fault)) (reject (.badValue field fault')) := rfl

theorem Alike.cases {x x' : Outcome SelectQuery} (h : Alike x x') :
    (∃ q q', x = .ok q ∧ x' = .ok q' ∧ q.blank = q'.blank) ∨
    (∃ f f', x = .error f ∧ x' = .error f' ∧ f.blank = f'.blank) := by
  cases x with
  | ok q =>
    cases x' with
    | ok q' => exact .inl ⟨q, q', rfl, rfl, Except.ok.inj h⟩
    | error f' => cases h
  | error f =>
    cases x' with
    | ok q' => cases h
    | error f' => exact .inr ⟨f, f', rfl, rfl, Except.error.inj h⟩

theorem Alike.bind {x x' : Outcome SelectQuery} {f f' : SelectQuery → Outcome SelectQuery} (h : Alike x x')
    (hf : ∀ q q', q.blank = q'.blank → Alike (f q) (f' q')) : Alike (x >>= f) (x' >>= f') := by
  rcases h.cases with ⟨q, q', rfl, rfl, hq⟩ | ⟨e, e', rfl, rfl, he⟩
  · exact hf q q' hq
  · exact congrArg Except.error he

theorem Alike.bind_same {α : Type} (x : Outcome α) {f f' : α → Outcome SelectQuery}
    (hf : ∀ a, Alike (f a) (f' a)) : Alike (x >>= f) (x >>= f') := by
  cases x with
  | ok a => exact hf a
  | error e => exact Alike.refl _

/-- Steps that keep outcomes alike keep them alike one after another. -/
theorem Alike.foldlM {α : Type} {R : α → α → Prop} {step : SelectQuery → α → Outcome SelectQuery}
    (hstep : ∀ q q' a a', q.blank = q'.blank → R a a' → Alike (step q a) (step q' a')) {items items' : List α}
    (hitems : List.Forall₂ R items items') (hq : q.blank = q'.blank) :
    Alike (items.foldlM step q) (items'.foldlM step q') := by
  induction hitems generalizing q q' with
  | nil => exact .ok hq
  | cons ha _ ih =>
    rw [List.foldlM_cons, List.foldlM_cons]
    exact (hstep _ _ _ _ hq ha).bind fun q q' hq => ih hq

/-! ## What a query shows -/

namespace SelectQuery

/-- Queries with one blank are the same but for the bindings, which have the same names. -/
theorem blank_eq_iff : q.blank = q'.blank ↔
    ∃ bindings, q' = { q with bindings := bindings } ∧
      q.bindings.map (fun b => (b.1, Value.null)) = bindings.map fun b => (b.1, Value.null) := by
  constructor
  · intro h
    cases q
    cases q'
    simp only [blank, SelectQuery.mk.injEq] at h
    obtain ⟨rfl, rfl, rfl, rfl, rfl, rfl, rfl, hb, rfl⟩ := h
    exact ⟨_, rfl, hb⟩
  · rintro ⟨bindings, rfl, hb⟩
    simp only [blank, hb]

theorem sql_blank (q : SelectQuery) : q.blank.sql = q.sql := rfl

/-- The names of parameters do not depend on the values. -/
theorem keys_parameters_blank (q : SelectQuery) : Keyed.keys q.blank.parameters = Keyed.keys q.parameters := by
  -- Putting entries one after another looks at keys only, whatever is there already.
  have hfold (bindings : Members) (acc acc' : Members) (h : Keyed.keys acc = Keyed.keys acc') :
      Keyed.keys ((bindings.map fun b => (b.1, Value.null)).foldl (fun acc e => Keyed.put e.1 e.2 acc) acc)
        = Keyed.keys (bindings.foldl (fun acc e => Keyed.put e.1 e.2 acc) acc') := by
    induction bindings generalizing acc acc' with
    | nil => exact h
    | cons b r ih => exact ih _ _ (by rw [keys_put_eq, keys_put_eq, h])
  exact hfold q.bindings [] [] rfl

theorem text_statement (q : SelectQuery) : q.statement.map Statement.text = q.sql := by
  unfold statement
  cases q.sql <;> rfl

theorem countStatement_blank (q : SelectQuery) (label : String) :
    (q.blank.countStatement label).map Statement.text = (q.countStatement label).map Statement.text := by
  unfold countStatement counting
  cases Identifier.check label with
  | error f => rfl
  | ok label =>
    simp only [ok_bind, pure_eq_ok, text_statement]
    rfl

/-! ## Operations -/

theorem map_blank_numbered (first : Nat) {values values' : List Value} (h : values.length = values'.length) :
    (numbered first values).map (fun b => (b.1, Value.null))
      = (numbered first values').map fun b => (b.1, Value.null) := by
  induction values generalizing first values' with
  | nil => rw [List.eq_nil_of_length_eq_zero h.symm]
  | cons v r ih =>
    cases values' with
    | nil => cases h
    | cons v' r' => exact congrArg (List.cons (paramName first, Value.null)) (ih (first + 1) (by simpa using h))

theorem blank_withPredicate (hq : q.blank = q'.blank) (p : Nat → Predicate) {values values' : List Value}
    (h : values.length = values'.length) :
    (q.withPredicate (p q.nextParam) values).blank = (q'.withPredicate (p q'.nextParam) values').blank := by
  obtain ⟨bindings, rfl, hb⟩ := blank_eq_iff.1 hq
  simp only [blank, withPredicate, List.map_append, hb, h, map_blank_numbered q.nextParam h]

theorem blank_setOrdering (hq : q.blank = q'.blank) (t : OrderTerm) :
    { q with ordering := q.ordering ++ [t] }.blank = { q' with ordering := q'.ordering ++ [t] }.blank := by
  obtain ⟨bindings, rfl, hb⟩ := blank_eq_iff.1 hq
  simp only [blank, hb]

theorem alike_compare (hq : q.blank = q'.blank) (field : String) (op : Comparison) (value value' : Value) :
    Alike (q.compare field op value) (q'.compare field op value') :=
  .bind_same _ fun f => .ok (blank_withPredicate hq (.comparison f op) rfl)

theorem alike_isIn (hq : q.blank = q'.blank) (field : String) {values values' : List Value}
    (h : values.length = values'.length) : Alike (q.isIn field values) (q'.isIn field values') := by
  cases values with
  | nil =>
    rw [List.eq_nil_of_length_eq_zero h.symm]
    exact .ok hq
  | cons v r =>
    cases values' with
    | nil => cases h
    | cons v' r' =>
      refine .bind_same _ fun f => ?_
      rw [h]
      exact .ok (blank_withPredicate hq (fun n => .membership f (List.range' n (v' :: r').length)) h)

theorem alike_between (hq : q.blank = q'.blank) (field : String) (low high low' high' : Value) :
    Alike (q.between field low high) (q'.between field low' high') :=
  .bind_same _ fun f => .ok (blank_withPredicate hq (fun n => .range f n (n + 1)) rfl)

theorem alike_isMissing (hq : q.blank = q'.blank) (field : String) :
    Alike (q.isMissing field) (q'.isMissing field) :=
  .bind_same _ fun f => .ok (blank_withPredicate hq (fun _ => .missing f) rfl)

theorem alike_isPresent (hq : q.blank = q'.blank) (field : String) :
    Alike (q.isPresent field) (q'.isPresent field) :=
  .bind_same _ fun f => .ok (blank_withPredicate hq (fun _ => .present f) rfl)

theorem alike_textSearch (hq : q.blank = q'.blank) (field : String) (exact : Bool) {term term' : String}
    (h : Text.isVoid term = Text.isVoid term') :
    Alike (q.textSearch field term exact) (q'.textSearch field term' exact) := by
  unfold textSearch
  rw [h]
  split
  · exact .ok hq
  · split
    · exact alike_compare hq field .equal _ _
    · exact alike_compare hq field .like _ _

theorem alike_searchAny (hq : q.blank = q'.blank) (fields : List String) {term term' : String}
    (h : Text.isVoid term = Text.isVoid term') :
    Alike (q.searchAny fields term) (q'.searchAny fields term') := by
  unfold searchAny
  rw [h]
  split
  · exact .ok hq
  · exact .bind_same _ fun _ => .ok (blank_withPredicate hq (.anyLike fields) rfl)

theorem alike_orderBy (hq : q.blank = q'.blank) (field : String) (d : Direction) :
    Alike (q.orderBy field d) (q'.orderBy field d) :=
  .bind_same _ fun f => .ok (blank_setOrdering hq (.column f d))

theorem alike_select (hq : q.blank = q'.blank) (columns : List String) :
    Alike (q.select columns) (q'.select columns) := by
  cases columns with
  | nil => exact .ok hq
  | cons c r =>
    refine .bind_same _ fun _ => .ok ?_
    obtain ⟨bindings, rfl, hb⟩ := blank_eq_iff.1 hq
    simp only [blank, hb]

theorem blank_withLimit (hq : q.blank = q'.blank) (n : Quantity) :
    (q.withLimit n).blank = (q'.withLimit n).blank := by
  obtain ⟨bindings, rfl, hb⟩ := blank_eq_iff.1 hq
  unfold withLimit
  split <;> simp only [blank, hb]

theorem blank_withOffset (hq : q.blank = q'.blank) (n : Quantity) :
    (q.withOffset n).blank = (q'.withOffset n).blank := by
  obtain ⟨bindings, rfl, hb⟩ := blank_eq_iff.1 hq
  unfold withOffset
  split <;> simp only [blank, hb]

end SelectQuery

end PagedSelect
