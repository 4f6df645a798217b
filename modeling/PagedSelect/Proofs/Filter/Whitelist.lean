import PagedSelect.Proofs.Filter.Standard
import PagedSelect.Proofs.Whitelist
/-!
# Filters under a whitelist

Every predicate that filters add under a whitelist comes from a filter on a listed field, by an operator
that is listed for it.  `Operator.Compiles` says which predicates an operator makes, and `OperatorOf` for
which operator a condition is compiled.
-/

namespace PagedSelect

variable {q q' : SelectQuery} {w : Whitelist}

/-! ## Where predicates come from -/

/-- The predicates on a field that an operator makes. -/
inductive Operator.Compiles (field : String) : Operator → Predicate → Prop
  | eq (n : Nat) : Compiles field eq (.comparison field .equal n)
  | ne (n : Nat) : Compiles field ne (.comparison field .notEqual n)
  | gt (n : Nat) : Compiles field gt (.comparison field .greater n)
  | gte (n : Nat) : Compiles field gte (.comparison field .greaterEqual n)
  | lt (n : Nat) : Compiles field lt (.comparison field .less n)
  | lte (n : Nat) : Compiles field lte (.comparison field .lessEqual n)
  | isIn (ns : List Nat) : Compiles field isIn (.membership field ns)
  | between (low high : Nat) : Compiles field between (.range field low high)
  | like (n : Nat) : Compiles field like (.comparison field .like n)
  | search (n : Nat) : Compiles field search (.comparison field .like n)
  | searchExact (n : Nat) : Compiles field search (.comparison field .equal n)
  | missing : Compiles field isNull (.missing field)
  | present : Compiles field isNull (.present field)

/-- The operator that a condition is compiled for: equality, or for a map the operator among its keys that goes
before all others there. -/
inductive OperatorOf : Value → Operator → Prop
  | scalar {v : Value} (h : ∀ condition, v ≠ .map condition) : OperatorOf v .eq
  | map {condition : Members} {op : Operator} {before after : List Operator}
      (hall : Operator.all = before ++ op :: after) (hkey : op.name ∈ Keyed.keys condition)
      (hbefore : ∀ other ∈ before, other.name ∉ Keyed.keys condition) : OperatorOf (.map condition) op

/-- The operator is listed for the field. -/
def Whitelist.Lists (w : Whitelist) (field : String) (op : Operator) : Prop :=
  ∃ operators, Keyed.get? field w.filterable = some operators ∧ op.name ∈ operators

/-- A predicate that comes from one of the filters, by an operator that is listed for its field. -/
def Whitelist.CoversFilter (w : Whitelist) (filters : Members) (p : Predicate) : Prop :=
  ∃ field condition op, (field, condition) ∈ filters ∧ OperatorOf condition op ∧ op.Compiles field p ∧
    w.Lists field op

/-! ## Answers of a whitelist -/

theorem require_eq_ok {p : Bool} {field : String} {use : Use} :
    Whitelist.require p field use = .ok () ↔ p = true := by
  cases p <;> simp [Whitelist.require, reject]

theorem filter_eq_ok {field : String} {op : Operator} (h : w.filter field op.name = .ok ()) :
    w.Lists field op := by
  unfold Whitelist.filter at h
  split at h
  · cases h
  · rename_i operators hget
    exact ⟨operators, hget, List.contains_iff_mem.1 (require_eq_ok.1 h)⟩

theorem contains_eq_ok {names : List String} {field : String} {use : Use}
    (h : Whitelist.require (names.contains field) field use = .ok ()) : field ∈ names :=
  List.contains_iff_mem.1 (require_eq_ok.1 h)

/-! ## Filters -/

/-- A query with some more predicates, all of a kind. -/
structure Restricts (P : Predicate → Prop) (q q' : SelectQuery) : Prop where
  predicates : ∃ ps, q'.predicates = q.predicates ++ ps ∧ ∀ p ∈ ps, P p
  projection : q'.projection = q.projection
  ordering : q'.ordering = q.ordering

namespace Restricts

variable {P P' : Predicate → Prop}

theorem refl (q : SelectQuery) : Restricts P q q := ⟨⟨[], by simp⟩, rfl, rfl⟩

theorem add {p : Predicate} (hp : P p) (values : List Value) : Restricts P q (q.withPredicate p values) :=
  ⟨⟨[p], rfl, fun p' hp' => by rw [List.mem_singleton.1 hp']; exact hp⟩, rfl, rfl⟩

theorem trans {q₁ : SelectQuery} (h : Restricts P q q₁) (h' : Restricts P q₁ q') : Restricts P q q' := by
  obtain ⟨ps, hps, hP⟩ := h.predicates
  obtain ⟨ps', hps', hP'⟩ := h'.predicates
  refine ⟨⟨ps ++ ps', ?_, fun p hp => ?_⟩, h'.projection.trans h.projection, h'.ordering.trans h.ordering⟩
  · rw [hps', hps, List.append_assoc]
  · rcases List.mem_append.1 hp with hp | hp
    · exact hP p hp
    · exact hP' p hp

theorem imp (h : Restricts P q q') (hP : ∀ p, P p → P' p) : Restricts P' q q' := by
  obtain ⟨ps, hps, hall⟩ := h.predicates
  exact ⟨⟨ps, hps, fun p hp => hP p (hall p hp)⟩, h.projection, h.ordering⟩

theorem of_foldlM {α : Type} {step : SelectQuery → α → Outcome SelectQuery} {items : List α}
    (hstep : ∀ a ∈ items, ∀ q q', step q a = .ok q' → Restricts P q q') (h : items.foldlM step q = .ok q') :
    Restricts P q q' := by
  induction items generalizing q with
  | nil => cases h; exact .refl _
  | cons a r ih =>
    rw [List.foldlM_cons] at h
    obtain ⟨q₁, h₁, h⟩ := bind_eq_ok.1 h
    exact (hstep a (by simp) q q₁ h₁).trans (ih (fun b hb => hstep b (by simp [hb])) h)

end Restricts

theorem compare_restricts {P : Predicate → Prop} {field : String} {c : Comparison} {v : Value}
    (hP : ∀ n, P (.comparison field c n)) (h : q.compare field c v = .ok q') : Restricts P q q' := by
  obtain ⟨-, h⟩ := Identifier.check_bind_eq_ok.1 h
  cases h
  exact .add (hP _) _

/-- An operator adds predicates on its field, all of them its own. -/
theorem Operator.restricts {op : Operator} {strict : Bool} {field : String} {v : Value} {condition : Members}
    (h : op.apply strict q field v condition = .ok q') : Restricts (op.Compiles field) q q' := by
  cases op with
  | eq => exact compare_restricts .eq h
  | ne => exact compare_restricts .ne h
  | gt => exact compare_restricts .gt h
  | gte => exact compare_restricts .gte h
  | lt => exact compare_restricts .lt h
  | lte => exact compare_restricts .lte h
  | isIn =>
    change applyIn q field v = .ok q' at h
    unfold applyIn at h
    split at h
    · cases h
    · cases h
    · rename_i items hne _
      cases items with
      | nil => exact absurd rfl hne
      | cons v r =>
        obtain ⟨-, h⟩ := Identifier.check_bind_eq_ok.1 h
        cases h
        exact .add (.isIn _) _
  | between =>
    change applyBetween q field v = .ok q' at h
    unfold applyBetween at h
    split at h
    · obtain ⟨-, h⟩ := Identifier.check_bind_eq_ok.1 h
      cases h
      exact .add (.between _ _) _
    · cases h
  | like =>
    change (if v.isNull then _ else _) = _ at h
    split at h
    · cases h
    · obtain ⟨_, -, h⟩ := bind_eq_ok.1 h
      exact compare_restricts .like h
  | search =>
    change (if v.isNull then _ else _) = _ at h
    split at h
    · cases h
      exact .refl _
    · obtain ⟨_, -, h⟩ := bind_eq_ok.1 h
      unfold SelectQuery.textSearch at h
      split at h
      · cases h
        exact .refl _
      · split at h
        · exact compare_restricts .searchExact h
        · exact compare_restricts .search h
  | isNull =>
    change applyNull strict q field v = .ok q' at h
    have present (h : q.isPresent field = .ok q') : Restricts (Compiles field .isNull) q q' := by
      obtain ⟨-, h⟩ := Identifier.check_bind_eq_ok.1 h
      cases h
      exact .add .present _
    unfold applyNull at h
    split at h
    · obtain ⟨-, h⟩ := Identifier.check_bind_eq_ok.1 h
      cases h
      exact .add .missing _
    · exact present h
    · split at h
      · obtain ⟨_, -, h⟩ := bind_eq_ok.1 h
        cases h
      · exact present h

theorem orSkip_restricts {P : Predicate → Prop} {rules : FilterRules} {result : Outcome SelectQuery}
    (hr : ∀ q', result = .ok q' → Restricts P q q') (h : rules.orSkip q result = .ok q') : Restricts P q q' := by
  unfold FilterRules.orSkip at h
  split at h
  · split at h
    · cases h
    · cases h
      exact .refl _
  · exact hr q' h

/-- The operator that is found for a condition, in either mode, is the first that it names. -/
theorem head?_of_operator? {strict : Bool} {field name : String} {condition : Members}
    (h : (standardRules strict).operator? field condition = .ok (some name)) :
    (Registry.standard.recognized condition).head? = some name := by
  unfold FilterRules.operator? at h
  dsimp only at h
  split at h
  · split at h
    · cases h
    · rename_i hr
      cases h
      rw [hr]
      rfl
    · cases h
  · exact Except.ok.inj h

/-- What a map is recognised by first is the operator that it is compiled for. -/
theorem operatorOf_of_recognized {condition : Members} {op : Operator}
    (h : (Registry.standard.recognized condition).head? = some op.name) : OperatorOf (.map condition) op := by
  have hfind : Operator.all.find? (fun op => Keyed.has op.name condition) = some op := by
    rw [Registry.recognized, List.head?_filter] at h
    change (Operator.all.map Operator.name).find? _ = _ at h
    rw [List.find?_map] at h
    obtain ⟨found, hfound, hname⟩ := Option.map_eq_some_iff.1 h
    rwa [Operator.name_injective hname] at hfound
  obtain ⟨hkey, before, after, hall, hbefore⟩ := List.find?_eq_some_iff_append.1 hfind
  refine .map hall (has_iff_mem_keys.1 hkey) fun other hother hmem => ?_
  have hnot := hbefore other hother
  rw [has_iff_mem_keys.2 hmem] at hnot
  cases hnot

theorem applyCondition_covers {strict : Bool} {field : String} {v : Value}
    (h : (standardRules strict).applyCondition (some w) q field v = .ok q') :
    Restricts (fun p => ∃ op, OperatorOf v op ∧ op.Compiles field p ∧ w.Lists field op) q q' := by
  unfold FilterRules.applyCondition at h
  split at h
  · rename_i condition
    obtain ⟨name?, hname, h⟩ := bind_eq_ok.1 h
    cases name? with
    | none => cases h; exact .refl _
    | some name =>
      have hhead := head?_of_operator? hname
      obtain ⟨op, value, rfl, hvalue⟩ := of_mem_recognized (List.mem_of_head? hhead)
      obtain ⟨⟨⟩, hlists, h⟩ := bind_eq_ok.1 h
      simp only [standard_get?, hvalue] at h
      refine orSkip_restricts (fun q₁ h₁ => ?_) h
      exact (Operator.restricts h₁).imp fun p hp => ⟨op, operatorOf_of_recognized hhead, hp, filter_eq_ok hlists⟩
  · rename_i v hv
    obtain ⟨⟨⟩, hlists, h⟩ := bind_eq_ok.1 h
    refine compare_restricts (fun n => ?_) h
    exact ⟨.eq, .scalar hv, .eq n, filter_eq_ok hlists⟩

theorem applyFilters_covers {strict : Bool} {filters : Members}
    (h : (standardRules strict).apply (some w) q filters = .ok q') :
    Restricts (w.CoversFilter filters) q q' := by
  refine .of_foldlM (fun f hf q q' h => ?_) h
  refine (applyCondition_covers h).imp fun p hp => ?_
  obtain ⟨op, hop, hp, hlists⟩ := hp
  exact ⟨f.1, f.2, op, hf, hop, hp, hlists⟩

end PagedSelect
