import PagedSelect.Engine.Translator
import PagedSelect.Proofs.Outcome
import PagedSelect.Proofs.Page.Window
/-!
# What a translation needs

Without a whitelist, a part of a request that names its fields fails only for a name that is no identifier.
So it adds to a query in either mode if it names its fields by identifiers, whatever the query is.
-/

namespace PagedSelect

variable {q : SelectQuery} {S : String → Prop}

/-! ## Contained outcomes -/

/-- An outcome that is a success, or the refusal of a supplied name that is no identifier. -/
def Contained {α : Type} (S : String → Prop) (result : Outcome α) : Prop :=
  ∀ f, result = .error f → ∃ name, S name ∧ Identifier.accepts name = false ∧ f = .rejected (.badField name none)

namespace Contained

variable {α β : Type}

theorem ok (a : α) : Contained S (.ok a) := nofun

theorem of_exists {result : Outcome α} (h : ∃ a, result = .ok a) : Contained S result := by
  obtain ⟨a, rfl⟩ := h
  exact ok a

theorem imp {S' : String → Prop} {result : Outcome α} (h : Contained S result) (hS : ∀ name, S name → S' name) :
    Contained S' result := by
  intro f hf
  obtain ⟨name, hname, hrefused⟩ := h f hf
  exact ⟨name, hS name hname, hrefused⟩

theorem bind {result : Outcome α} {next : α → Outcome β} (h : Contained S result)
    (hnext : ∀ a, Contained S (next a)) : Contained S (result >>= next) := by
  intro f hf
  cases result with
  | error e =>
    cases hf
    exact h f rfl
  | ok a => exact hnext a f hf

theorem map {result : Outcome α} (h : Contained S result) (g : α → β) : Contained S (result.map g) := by
  intro f hf
  cases result with
  | error e =>
    cases hf
    exact h f rfl
  | ok a => cases hf

theorem check {name : String} (h : S name) : Contained S (Identifier.check name) := by
  intro f hf
  unfold Identifier.check at hf
  split at hf
  · cases hf
  · rename_i hname
    cases hf
    exact ⟨name, h, Bool.not_eq_true _ ▸ hname, rfl⟩

theorem foldlM {step : β → α → Outcome β} {items : List α} (h : ∀ a ∈ items, ∀ b, Contained S (step b a)) (b : β) :
    Contained S (items.foldlM step b) := by
  induction items generalizing b with
  | nil => exact ok b
  | cons a r ih =>
    rw [List.forall_mem_cons] at h
    rw [List.foldlM_cons]
    exact (h.1 b).bind fun b' => ih h.2 b'

theorem forM {step : α → Outcome Unit} {items : List α} (h : ∀ a ∈ items, Contained S (step a)) :
    Contained S (items.forM step) := by
  induction items with
  | nil => exact ok ()
  | cons a r ih =>
    rw [List.forall_mem_cons] at h
    exact h.1.bind fun _ => ih h.2

/-- Steps that are given identifiers only succeed. -/
theorem succeeds {result : Outcome α} (h : Contained S result)
    (hS : ∀ name, S name → Identifier.accepts name = true) : ∃ a, result = .ok a := by
  cases result with
  | ok a => exact ⟨a, rfl⟩
  | error f =>
    obtain ⟨name, hname, hrefused, -⟩ := h f rfl
    rw [hS name hname] at hrefused
    cases hrefused

end Contained

/-- Steps that succeed on every query succeed one after another. -/
theorem foldlM_succeeds {α : Type} {step : SelectQuery → α → Outcome SelectQuery} {items : List α}
    (h : ∀ a ∈ items, ∀ q, ∃ q', step q a = .ok q') (q : SelectQuery) : ∃ q', items.foldlM step q = .ok q' := by
  have hcontained : Contained (fun _ => False) (items.foldlM step q) :=
    Contained.foldlM (fun a ha q => .of_exists (h a ha q)) q
  exact hcontained.succeeds nofun

/-! ## Table and projection -/

theorem ofTable_succeeds {table placeholder : String} (htable : Identifier.accepts table = true)
    (hmark : placeholder ≠ "") : ∃ q, SelectQuery.ofTable table placeholder = .ok q := by
  have hname : Identifier.check table = .ok table := Identifier.check_eq_ok.2 ⟨htable, rfl⟩
  simp only [SelectQuery.ofTable, SelectQuery.make, Identifier.ofValue, hname, ok_bind, if_neg hmark]
  exact ⟨_, rfl⟩

theorem applyProjection_contained (q : SelectQuery) (columns : Option (List String)) :
    Contained (fun name => name ∈ columns.getD [] ∧ name ≠ "*") (Translator.applyProjection none q columns) := by
  unfold Translator.applyProjection
  cases columns.getD [] with
  | nil => exact .ok q
  | cons c r =>
    refine (Contained.forM fun _ _ => .ok ()).bind fun _ => ?_
    refine (Contained.forM fun name hname => ?_).bind fun _ => .ok _
    unfold SelectQuery.checkColumn
    split
    · exact .ok ()
    · rename_i hstar
      exact (Contained.check ⟨hname, hstar⟩).map _

theorem applyProjection_succeeds {columns : Option (List String)}
    (h : ∀ c ∈ columns.getD [], Identifier.accepts c = true) (q : SelectQuery) :
    ∃ q', Translator.applyProjection none q columns = .ok q' :=
  (applyProjection_contained q columns).succeeds fun name hname => h name hname.1

/-! ## Comparisons and search -/

theorem compare_contained {field : String} (h : S field) (op : Comparison) (v : Value) :
    Contained S (q.compare field op v) := (Contained.check h).bind fun _ => .ok _

theorem compare_succeeds {field : String} (h : Identifier.accepts field = true) (op : Comparison) (value : Value)
    (q : SelectQuery) : ∃ q', q.compare field op value = .ok q' :=
  (compare_contained h op value).succeeds fun _ => id

theorem searchAny_contained {fields : List String} (h : ∀ f ∈ fields, S f) (term : String) :
    Contained S (q.searchAny fields term) := by
  unfold SelectQuery.searchAny
  split
  · exact .ok q
  · exact (Contained.forM fun f hf => (Contained.check (h f hf)).map _).bind fun _ => .ok _

theorem textSearch_contained {field : String} (h : S field) (term : String) (exact : Bool) :
    Contained S (q.textSearch field term exact) := by
  unfold SelectQuery.textSearch
  split
  · exact .ok q
  · split
    · exact compare_contained h _ _
    · exact compare_contained h _ _

/-- The fields that a search looks into. -/
def SearchSpec.targets (s : SearchSpec) : List String :=
  if s.isMultiField then s.fields.getD [] else (s.field.filter (· ≠ "")).toList

/-- A search fails for its targets only, if it has any in strict mode. -/
theorem SearchSpec.apply_contained {strict : Bool} {s : SearchSpec} (hstrict : strict = true → s.targets ≠ [])
    (q : SelectQuery) : Contained (fun name => Text.isVoid (s.term.getD "") = false ∧ name ∈ s.targets)
      (s.apply strict none q) := by
  unfold apply
  by_cases hvoid : Text.isVoid (s.term.getD "") = true
  · rw [if_pos hvoid]
    exact .ok q
  · rw [if_neg hvoid]
    have hgiven : Text.isVoid (s.term.getD "") = false := Bool.eq_false_iff.2 hvoid
    by_cases hmulti : s.isMultiField = true
    · rw [if_pos hmulti]
      have htargets : s.targets = s.fields.getD [] := if_pos hmulti
      refine (Contained.forM fun _ _ => .ok ()).bind fun _ => searchAny_contained (fun f hf => ?_) _
      exact ⟨hgiven, htargets ▸ hf⟩
    · rw [if_neg hmulti]
      have htargets : s.targets = (s.field.filter (· ≠ "")).toList := if_neg hmulti
      cases hfield : s.field.filter (· ≠ "") with
      | none =>
        rw [hfield] at htargets
        cases strict with
        | false => exact .ok q
        | true => exact absurd htargets (hstrict rfl)
      | some field =>
        rw [hfield] at htargets
        refine (Contained.ok ()).bind fun _ => textSearch_contained ⟨hgiven, ?_⟩ _ _
        rw [htargets]
        exact List.mem_singleton_self field

/-- A search in several fields succeeds, void or not. -/
theorem applySearch_succeeds {fields : List String} (hne : fields ≠ [])
    (h : ∀ f ∈ fields, Identifier.accepts f = true) (term : String) (strict : Bool) (q : SelectQuery) :
    ∃ q', applySearch strict none q (some { fields := some fields, term := some term }) = .ok q' := by
  have htargets : SearchSpec.targets { fields := some fields, term := some term } = fields := by
    simp [SearchSpec.targets, SearchSpec.isMultiField, hne]
  refine (SearchSpec.apply_contained (fun _ => ?_) q).succeeds fun name hname => h name ?_
  · rw [htargets]
    exact hne
  · rw [← htargets]
    exact hname.2

/-! ## Order -/

theorem applyFields_contained {fields : List SortField} (h : ∀ f ∈ fields, S f.field) (q : SelectQuery) :
    Contained S (SortField.applyFields none q fields) := by
  refine Contained.foldlM (fun f hf q => ?_) q
  exact (Contained.ok ()).bind fun _ => (Contained.check (h f hf)).bind fun _ => .ok _

theorem applyFields_succeeds {fields : List SortField} (h : ∀ f ∈ fields, Identifier.accepts f.field = true)
    (q : SelectQuery) : ∃ q', SortField.applyFields none q fields = .ok q' :=
  (applyFields_contained h q).succeeds fun _ => id

end PagedSelect
