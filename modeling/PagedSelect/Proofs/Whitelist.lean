import PagedSelect.Engine.Translator
import PagedSelect.Proofs.Outcome
/-!
# Wider and narrower whitelists

A whitelist only ever refuses: translation under one whitelist gives what translation under a wider
one gives, or ends with a field that is not allowed.  No whitelist at all is the widest.
-/

namespace PagedSelect

/-- A whitelist that permits no more than another. -/
structure Whitelist.Within (w w' : Whitelist) : Prop where
  filterable : ∀ field operators, Keyed.get? field w.filterable = some operators →
    ∃ operators', Keyed.get? field w'.filterable = some operators' ∧ operators ⊆ operators'
  sortable : w.sortable ⊆ w'.sortable
  projectable : w.projectable ⊆ w'.projectable
  searchable : w.searchable ⊆ w'.searchable

/-- Whitelists by what they permit; none of them permits everything. -/
inductive Narrower : Option Whitelist → Option Whitelist → Prop
  | none (w : Option Whitelist) : Narrower w none
  | some {w w' : Whitelist} (h : w.Within w') : Narrower (some w) (some w')

/-- The refusal of a use of a field. -/
def Failure.IsNotAllowed (f : Failure) : Prop := ∃ field use, f = .rejected (.notAllowed field use)

/-- An outcome beside that under a wider whitelist: the same, unless a use of a field is refused. -/
inductive Gated {α : Type} : Outcome α → Outcome α → Prop
  | same (x : Outcome α) : Gated x x
  | refused (field : String) (use : Use) (x : Outcome α) : Gated (reject (.notAllowed field use)) x

variable {α β : Type} {w w' : Option Whitelist}

/-! ## Outcomes in sequence -/

namespace Gated

theorem eq_of_ok {x x' : Outcome α} {a : α} (h : Gated x x') (hx : x = .ok a) : x' = .ok a := by
  cases h with
  | same => exact hx
  | refused => cases hx

theorem eq_of_error {x x' : Outcome α} {f : Failure} (h : Gated x x') (hx : x = .error f) :
    f.IsNotAllowed ∨ x' = .error f := by
  cases h with
  | same => exact .inr hx
  | refused field use =>
    cases hx
    exact .inl ⟨field, use, rfl⟩

theorem bind {x x' : Outcome α} {f f' : α → Outcome β} (h : Gated x x') (hf : ∀ a, Gated (f a) (f' a)) :
    Gated (x >>= f) (x' >>= f') := by
  cases h with
  | same =>
    cases x with
    | error e => exact .same _
    | ok a => exact hf a
  | refused field use => exact .refused field use _

theorem foldlM {step step' : β → α → Outcome β} (hstep : ∀ b a, Gated (step b a) (step' b a)) (items : List α)
    (b : β) : Gated (items.foldlM step b) (items.foldlM step' b) := by
  induction items generalizing b with
  | nil => exact .same _
  | cons a r ih =>
    rw [List.foldlM_cons, List.foldlM_cons]
    exact (hstep b a).bind ih

theorem forM {check check' : α → Outcome Unit} (h : ∀ a, Gated (check a) (check' a)) (items : List α) :
    Gated (items.forM check) (items.forM check') := by
  induction items with
  | nil => exact .same _
  | cons a r ih => exact (h a).bind fun _ => ih

end Gated

/-! ## Questions to a whitelist -/

/-- A question that may be refused, but not where a narrower whitelist permits. -/
structure Gating (ask : Whitelist → Outcome Unit) : Prop where
  permits : ∀ w, Gated (ask w) (.ok ())
  widens : ∀ w w', w.Within w' → Gated (ask w) (ask w')

theorem Gating.permitted {ask : Whitelist → Outcome Unit} (h : Gating ask) (hw : Narrower w w') :
    Gated (permitted w ask) (permitted w' ask) := by
  cases hw with
  | none =>
    cases w with
    | none => exact .same _
    | some w => exact h.permits w
  | some hw => exact h.widens _ _ hw

theorem gated_require {p p' : Bool} (h : p = true → p' = true) (field : String) (use : Use) :
    Gated (Whitelist.require p field use) (Whitelist.require p' field use) := by
  cases p with
  | false => exact .refused field use _
  | true =>
    rw [h rfl]
    exact .same _

theorem gated_contains {names names' : List String} (h : names ⊆ names') (name field : String) (use : Use) :
    Gated (Whitelist.require (names.contains name) field use)
      (Whitelist.require (names'.contains name) field use) :=
  gated_require (fun hmem => List.contains_iff_mem.2 (h (List.contains_iff_mem.1 hmem))) field use

theorem gated_require_ok (p : Bool) (field : String) (use : Use) :
    Gated (Whitelist.require p field use) (.ok ()) := by
  change Gated _ (Whitelist.require true field use)
  exact gated_require (fun _ => rfl) field use

theorem gating_project (field : String) : Gating (·.project field) where
  permits _ := gated_require_ok _ field .project
  widens _ _ hw := gated_contains hw.projectable field field .project

theorem gating_search (field : String) : Gating (·.search field) where
  permits _ := gated_require_ok _ field .search
  widens _ _ hw := gated_contains hw.searchable field field .search

theorem gating_sort (field : String) : Gating (·.sort field) where
  permits _ := gated_require_ok _ field .sort
  widens _ _ hw := gated_contains hw.sortable field field .sort

theorem gating_filter (field operator : String) : Gating (·.filter field operator) where
  permits w := by
    unfold Whitelist.filter
    split
    · exact .refused field .filter _
    · exact gated_require_ok _ field (.operator operator)
  widens w w' hw := by
    cases hget : Keyed.get? field w.filterable with
    | none =>
      rw [Whitelist.filter, hget]
      exact .refused field .filter _
    | some operators =>
      obtain ⟨operators', hget', hsub⟩ := hw.filterable field operators hget
      rw [Whitelist.filter, Whitelist.filter, hget, hget']
      exact gated_contains hsub operator field (.operator operator)

/-! ## Parts of a request -/

theorem gated_applyCondition (hw : Narrower w w') (rules : FilterRules) (q : SelectQuery) (field : String)
    (v : Value) : Gated (rules.applyCondition w q field v) (rules.applyCondition w' q field v) := by
  have scalar (v : Value) : Gated
      (permitted w (·.filter field Operator.eq.name) >>= fun _ => q.equals field v)
      (permitted w' (·.filter field Operator.eq.name) >>= fun _ => q.equals field v) :=
    ((gating_filter field _).permitted hw).bind fun _ => .same _
  cases v with
  | map condition =>
    refine (Gated.same _).bind fun name? => ?_
    cases name? with
    | none => exact .same _
    | some name => exact ((gating_filter field name).permitted hw).bind fun _ => .same _
  | _ => exact scalar _

theorem gated_applyFilters (hw : Narrower w w') (rules : FilterRules) (q : SelectQuery) (filters : Members) :
    Gated (rules.apply w q filters) (rules.apply w' q filters) :=
  Gated.foldlM (fun q (f : String × Value) => gated_applyCondition hw rules q f.1 f.2) filters q

theorem gated_applySearch (hw : Narrower w w') (strict : Bool) (q : SelectQuery) (s? : Option SearchSpec) :
    Gated (applySearch strict w q s?) (applySearch strict w' q s?) := by
  cases s? with
  | none => exact .same _
  | some s =>
    unfold applySearch SearchSpec.apply
    dsimp only
    split
    · exact .same _
    · split
      · exact (Gated.forM (fun f => (gating_search f).permitted hw) _).bind fun _ => .same _
      · split
        · exact ((gating_search _).permitted hw).bind fun _ => .same _
        · exact .same _

theorem gated_applySort (hw : Narrower w w') (strict : Bool) (q : SelectQuery) (raw : Value) :
    Gated (SortField.apply strict w q raw) (SortField.apply strict w' q raw) := by
  refine (Gated.same _).bind fun fields => ?_
  exact Gated.foldlM (fun q f => ((gating_sort f.field).permitted hw).bind fun _ => .same _) fields q

theorem gated_applyProjection (hw : Narrower w w') (q : SelectQuery) (columns : Option (List String)) :
    Gated (Translator.applyProjection w q columns) (Translator.applyProjection w' q columns) := by
  unfold Translator.applyProjection
  split
  · exact .same _
  · exact (Gated.forM (fun name => (gating_project name).permitted hw) _).bind fun _ => .same _

/-! ## Requests -/

theorem gated_query (hw : Narrower w w') (t : Translator) (e : Entity) (r : QueryRequest) :
    Gated (t.query w e r) (t.query w' e r) := by
  unfold Translator.query
  refine (Gated.same _).bind fun q => ?_
  refine (gated_applyProjection hw q r.fields).bind fun q => ?_
  refine (gated_applyFilters hw t.filterRules q (r.filters.getD [])).bind fun q => ?_
  refine (gated_applySearch hw t.config.strict q r.search).bind fun q => ?_
  exact (gated_applySort hw t.config.strict q r.sortValue).bind fun q => .same _

theorem gated_queryOfWire (hw : Narrower w w') (t : Translator) (e : Entity) (raw : Value) :
    Gated (t.queryOfWire w e raw) (t.queryOfWire w' e raw) :=
  (Gated.same _).bind (gated_query hw t e)

end PagedSelect
