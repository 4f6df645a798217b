import PagedSelect.Proofs.Select.Effect
/-!
# What a clause asks of a query

A clause asks the same of every query: a change, or a failure.  A change puts something in the place of
one part of the query or adds to that part, and a predicate is added with the next parameters.
`Clause.uniform` says that a clause asks for nothing but a change of its kind.
-/

namespace PagedSelect

/-! ## Patterns -/

/-- A predicate with other numbers for its parameters. -/
def Predicate.renumber (σ : Nat → Nat) : Predicate → Predicate
  | comparison field op n => comparison field op (σ n)
  | membership field ns => membership field (ns.map σ)
  | range field low high => range field (σ low) (σ high)
  | missing field => missing field
  | present field => present field
  | anyLike fields n => anyLike fields (σ n)
  | given text => given text

namespace Predicate

variable {σ τ : Nat → Nat}

theorem renumber_congr {p : Predicate} (h : ∀ n ∈ p.params, σ n = τ n) : p.renumber σ = p.renumber τ := by
  cases p with
  | membership field ns => exact congrArg (membership field) (List.map_congr_left h)
  | _ => simp_all [renumber, params]

theorem renumber_renumber (p : Predicate) : (p.renumber σ).renumber τ = p.renumber (τ ∘ σ) := by
  cases p with
  | membership field ns => exact congrArg (membership field) List.map_map
  | _ => rfl

theorem params_renumber (p : Predicate) : (p.renumber σ).params = p.params.map σ := by
  cases p <;> rfl

end Predicate

/-- A predicate with the values of its parameters, which are numbered from zero. -/
structure Pattern where
  predicate : Predicate
  values : List Value
  params_eq : predicate.params = List.range values.length

namespace Pattern

def comparison (field : String) (op : Comparison) (v : Value) : Pattern := ⟨.comparison field op 0, [v], rfl⟩

def membership (field : String) (items : List Value) : Pattern :=
  ⟨.membership field (List.range items.length), items, rfl⟩

def range (field : String) (low high : Value) : Pattern := ⟨.range field 0 1, [low, high], rfl⟩

def missing (field : String) : Pattern := ⟨.missing field, [], rfl⟩

def present (field : String) : Pattern := ⟨.present field, [], rfl⟩

def anyLike (fields : List String) (v : Value) : Pattern := ⟨.anyLike fields 0, [v], rfl⟩

end Pattern

/-- Adds a pattern, if there is one, under the next parameters. -/
def SelectQuery.adding (q : SelectQuery) : Option Pattern → SelectQuery
  | none => q
  | some p => q.withPredicate (p.predicate.renumber (q.nextParam + ·)) p.values

/-! ## Changes -/

/-- All that a clause may ask of a query.  Where there is none to put, what is there stays. -/
inductive Change where
  | project (p : Option Projection)
  | restrict (p : Option Pattern)
  | order (terms : List OrderTerm)
  | window (limit offset : Option Quantity)
  | count (label : String)

namespace Change

def kind : Change → ClauseKind
  | project _ => .projection
  | restrict _ => .predicate
  | order _ => .ordering
  | window .. => .window
  | count _ => .counting

/-- Makes a change. -/
def apply (q : SelectQuery) : Change → SelectQuery
  | project p => { q with projection := p.getD q.projection }
  | restrict p => q.adding p
  | order terms => { q with ordering := q.ordering ++ terms }
  | window limit offset => { q with limit := limit.or q.limit, offset := offset.or q.offset }
  | count label => { q with projection := .count label, ordering := [], limit := none, offset := none }

/-- Two changes of one kind are one change, unless they add two predicates. -/
theorem exists_both {d d' : Change} (h : d'.kind = d.kind) (hk : d.kind ≠ .predicate) :
    ∃ both : Change, both.kind = d.kind ∧ ∀ q, d'.apply (d.apply q) = both.apply q := by
  cases d with
  | project p =>
    cases d' with
    | project p' => exact ⟨.project (p'.or p), rfl, fun q => by cases p' <;> rfl⟩
    | _ => cases h
  | restrict p => exact absurd rfl hk
  | order terms =>
    cases d' with
    | order terms' => exact ⟨.order (terms ++ terms'), rfl, fun q => by simp only [apply, List.append_assoc]⟩
    | _ => cases h
  | window limit offset =>
    cases d' with
    | window limit' offset' =>
      exact ⟨.window (limit'.or limit) (offset'.or offset), rfl, fun q => by simp only [apply, Option.or_assoc]⟩
    | _ => cases h
  | count label =>
    cases d' with
    | count label' => exact ⟨.count label', rfl, fun _ => rfl⟩
    | _ => cases h

end Change

/-- A step that asks the same of every query: a change of a kind, or a failure. -/
def Uniform (k : ClauseKind) (step : SelectQuery → Outcome SelectQuery) : Prop :=
  ∃ asked : Outcome Change, (∀ d, asked = .ok d → d.kind = k) ∧ ∀ q, step q = asked.map (Change.apply q)

namespace Uniform

variable {α : Type} {k : ClauseKind}

theorem change (d : Change) : Uniform d.kind fun q => .ok (d.apply q) :=
  ⟨.ok d, fun _ h => congrArg Change.kind (Except.ok.inj h).symm, fun _ => rfl⟩

theorem failure (k : ClauseKind) (f : Failure) : Uniform k fun _ => .error f :=
  ⟨.error f, nofun, fun _ => rfl⟩

/-- What comes before a step and has nothing to do with the query. -/
theorem bind (x : Outcome α) {step : α → SelectQuery → Outcome SelectQuery} (h : ∀ a, Uniform k (step a)) :
    Uniform k fun q => x >>= fun a => step a q := by
  cases x with
  | ok a => exact h a
  | error f => exact failure k f

theorem ite (p : Prop) [Decidable p] {step step' : SelectQuery → Outcome SelectQuery} (h : Uniform k step)
    (h' : Uniform k step') : Uniform k fun q => if p then step q else step' q := by
  by_cases hp : p
  · simpa only [if_pos hp] using h
  · simpa only [if_neg hp] using h'

/-- Two steps of one kind, one after the other. -/
theorem andThen {step step' : SelectQuery → Outcome SelectQuery} (h : Uniform k step) (h' : Uniform k step')
    (hk : k ≠ .predicate := by decide) : Uniform k fun q => step q >>= step' := by
  obtain ⟨x, hx, hstep⟩ := h
  obtain ⟨x', hx', hstep'⟩ := h'
  cases x with
  | error f => exact ⟨.error f, nofun, fun q => congrArg (· >>= step') (hstep q)⟩
  | ok d =>
    -- The second step asks the same of whatever the first one leaves, so their changes can be joined.
    have hboth (q : SelectQuery) : step q >>= step' = x'.map (Change.apply (d.apply q)) := by
      rw [hstep, ← hstep']
      rfl
    cases x' with
    | error f => exact ⟨.error f, nofun, hboth⟩
    | ok d' =>
      obtain rfl := hx d rfl
      obtain ⟨both, hkind, happly⟩ := Change.exists_both (hx' d' rfl) hk
      refine ⟨.ok both, fun _ h => Except.ok.inj h ▸ hkind, fun q => (hboth q).trans ?_⟩
      exact congrArg Except.ok (happly q)

/-- A step that leaves a query as it is asks for nothing to restrict it. -/
theorem pass : Uniform .predicate .ok := change (.restrict none)

theorem restrict (p : Pattern) : Uniform .predicate fun q => .ok (q.adding (some p)) := change (.restrict (some p))

/-- A step that succeeds makes one change of its kind, whatever the query. -/
theorem exists_change {step : SelectQuery → Outcome SelectQuery} {q q' : SelectQuery} (h : Uniform k step)
    (hq : step q = .ok q') : ∃ d : Change, d.kind = k ∧ ∀ q, step q = .ok (d.apply q) := by
  obtain ⟨asked, hkind, hstep⟩ := h
  cases asked with
  | error f => cases (hstep q).symm.trans hq
  | ok d => exact ⟨d, hkind d rfl, hstep⟩

end Uniform

/-- A run succeeds if each of its steps does, on any query. -/
theorem exists_foldlM_iff {α : Type} {step : SelectQuery → α → Outcome SelectQuery} {kind : α → ClauseKind}
    (hstep : ∀ a, Uniform (kind a) (step · a)) {items : List α} {q : SelectQuery} :
    (∃ q', items.foldlM step q = .ok q') ↔ ∀ a ∈ items, ∃ q₀ q', step q₀ a = .ok q' := by
  induction items generalizing q with
  | nil => exact iff_of_true ⟨q, rfl⟩ nofun
  | cons a r ih =>
    rw [List.forall_mem_cons, List.foldlM_cons]
    constructor
    · rintro ⟨q', h⟩
      obtain ⟨q₁, h₁, h⟩ := bind_eq_ok.1 h
      exact ⟨⟨q, q₁, h₁⟩, ih.1 ⟨q', h⟩⟩
    · rintro ⟨⟨q₀, q₁, h₁⟩, hr⟩
      obtain ⟨d, -, hd⟩ := (hstep a).exists_change h₁
      rw [hd, ok_bind]
      exact ih.2 hr

/-! ## Operations -/

namespace SelectQuery

theorem adding_membership (q : SelectQuery) (field : String) (items : List Value) :
    q.adding (some (.membership field items))
      = q.withPredicate (.membership field (List.range' q.nextParam items.length)) items := by
  rw [List.range'_eq_map_range]
  rfl

theorem select_uniform (columns : List String) : Uniform .projection (·.select columns) := by
  cases columns with
  | nil => exact .change (.project none)
  | cons c r => exact .bind _ fun _ => .change (.project (some (.columns (c :: r))))

theorem compare_uniform (field : String) (op : Comparison) (v : Value) :
    Uniform .predicate (·.compare field op v) :=
  .bind _ fun field => .restrict (.comparison field op v)

theorem compareBy_uniform (field operator : String) (v : Value) :
    Uniform .predicate (·.compareBy field operator v) := by
  unfold compareBy
  cases Comparison.ofText? operator with
  | none => exact .failure _ _
  | some op => exact compare_uniform field op v

theorem isIn_uniform (field : String) (values : List Value) : Uniform .predicate (·.isIn field values) := by
  cases values with
  | nil => exact .pass
  | cons v r =>
    refine .bind _ fun field => ?_
    have h := Uniform.restrict (.membership field (v :: r))
    simp only [adding_membership] at h
    exact h

theorem between_uniform (field : String) (low high : Value) : Uniform .predicate (·.between field low high) :=
  .bind _ fun field => .restrict (.range field low high)

theorem isMissing_uniform (field : String) : Uniform .predicate (·.isMissing field) :=
  .bind _ fun field => .restrict (.missing field)

theorem isPresent_uniform (field : String) : Uniform .predicate (·.isPresent field) :=
  .bind _ fun field => .restrict (.present field)

theorem textSearch_uniform (field term : String) (exact : Bool) :
    Uniform .predicate (·.textSearch field term exact) :=
  .ite _ .pass (.ite _ (compare_uniform field .equal _) (compare_uniform field .like _))

theorem searchAny_uniform (fields : List String) (term : String) :
    Uniform .predicate (·.searchAny fields term) :=
  .ite _ .pass (.bind _ fun _ => .restrict (.anyLike fields (containing term)))

theorem orderBy_uniform (field : String) (d : Direction) : Uniform .ordering (·.orderBy field d) :=
  .bind _ fun field => .change (.order [.column field d])

theorem orderByAll_uniform (terms : List (String × Direction)) : Uniform .ordering (·.orderByAll terms) := by
  induction terms with
  | nil => exact ⟨.ok (.order []), fun _ h => congrArg Change.kind (Except.ok.inj h).symm, fun q => by
      simp [orderByAll, Change.apply, Except.map]⟩
  | cons t r ih =>
    unfold orderByAll at ih ⊢
    simp only [List.foldlM_cons]
    exact (orderBy_uniform t.1 t.2).andThen ih

theorem withLimit_uniform (n : Quantity) : Uniform .window fun q => .ok (q.withLimit n) := by
  unfold withLimit
  split
  · exact .change (.window (some n) none)
  · exact .change (.window none none)

theorem withOffset_uniform (n : Quantity) : Uniform .window fun q => .ok (q.withOffset n) := by
  unfold withOffset
  split
  · exact .change (.window none (some n))
  · exact .change (.window none none)

theorem paginate_uniform (page size : Quantity) : Uniform .window (·.paginate page size) := by
  unfold paginate
  split
  · split
    · exact (withLimit_uniform size).andThen (withOffset_uniform _)
    · exact .failure _ _
  · exact .change (.window none none)

theorem counting_uniform (label : String) : Uniform .counting (·.counting label) :=
  .bind _ fun label => .change (.count label)

end SelectQuery

open SelectQuery in
/-- A clause asks the same of every query: a change of its kind, or a failure. -/
theorem Clause.uniform (c : Clause) : Uniform c.kind (c.apply ·) := by
  cases c with
  | select columns => exact select_uniform columns
  | compare field operator value => exact .bind _ fun s => compareBy_uniform field s value
  | equals field value => exact compare_uniform field .equal value
  | isIn field values => exact .bind _ fun vs => isIn_uniform field vs
  | between field low high => exact between_uniform field low high
  | isMissing field => exact isMissing_uniform field
  | isPresent field => exact isPresent_uniform field
  | textSearch field term exact => exact textSearch_uniform field _ exact
  | searchAny fields term => exact searchAny_uniform fields _
  | orderBy field direction => exact orderBy_uniform field _
  | orderByAll terms => exact orderByAll_uniform _
  | limit n => exact withLimit_uniform n
  | offset n => exact withOffset_uniform n
  | paginate page size =>
    cases page with
    | none => exact .change (.window none none)
    | some page =>
      cases size with
      | none => exact .change (.window none none)
      | some size => exact paginate_uniform page size
  | counting label => exact counting_uniform label

end PagedSelect
