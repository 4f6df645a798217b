import PagedSelect.Engine.Translator
import PagedSelect.Proofs.Filter.Noninterference
/-!
# Values of a request do not show

Two requests that differ in values only are translated to queries that read the same, with the same
statements and the same names of parameters, or fail in the same way.
-/

namespace PagedSelect

variable {S : Value → Value → Prop} {q q' : SelectQuery} {w : Option Whitelist}

/-- Two searches that differ in their terms only, none or both of which are void. -/
structure SearchSpec.Agrees (s s' : SearchSpec) : Prop where
  field : s.field = s'.field
  fields : s.fields = s'.fields
  exact : s.exact = s'.exact
  term : Text.isVoid (s.term.getD "") = Text.isVoid (s'.term.getD "")

/-- Two requests that differ in values only. -/
structure QueryRequest.Agrees (S : Value → Value → Prop) (r r' : QueryRequest) : Prop where
  fields : r.fields = r'.fields
  filters : List.Forall₂ (FilterAgrees S) (r.filters.getD []) (r'.filters.getD [])
  search : Option.Rel SearchSpec.Agrees r.search r'.search
  sort : r.sort = r'.sort
  pagination : r.pagination = r'.pagination

/-! ## Parts of a request -/

theorem alike_applyProjection (hq : q.blank = q'.blank) (columns : Option (List String)) :
    Alike (Translator.applyProjection w q columns) (Translator.applyProjection w q' columns) := by
  unfold Translator.applyProjection
  split
  · exact .ok hq
  · exact .bind_same _ fun _ => SelectQuery.alike_select hq _

theorem SearchSpec.alike_apply (strict : Bool) (hq : q.blank = q'.blank) {s s' : SearchSpec} (h : s.Agrees s') :
    Alike (s.apply strict w q) (s'.apply strict w q') := by
  have hmulti : s.isMultiField = s'.isMultiField := by
    unfold isMultiField
    rw [h.fields]
  unfold SearchSpec.apply
  dsimp only
  rw [h.term, hmulti, h.field, h.fields, h.exact]
  split
  · exact .ok hq
  · split
    · exact .bind_same _ fun _ => SelectQuery.alike_searchAny hq _ h.term
    · split
      · exact .bind_same _ fun _ => SelectQuery.alike_textSearch hq _ _ h.term
      · split
        · exact .refl _
        · exact .ok hq

theorem alike_applySearch (strict : Bool) (hq : q.blank = q'.blank) {s s' : Option SearchSpec}
    (h : Option.Rel SearchSpec.Agrees s s') : Alike (applySearch strict w q s) (applySearch strict w q' s') := by
  cases h with
  | none => exact .ok hq
  | some h => exact SearchSpec.alike_apply strict hq h

theorem alike_applySort (strict : Bool) (hq : q.blank = q'.blank) (raw : Value) :
    Alike (SortField.apply strict w q raw) (SortField.apply strict w q' raw) := by
  refine .bind_same _ fun fields => ?_
  refine Alike.foldlM (R := Eq) (fun q q' f f' hq hf => ?_) (List.forall₂_same.2 fun _ _ => rfl) hq
  subst hf
  exact .bind_same _ fun _ => SelectQuery.alike_orderBy hq f.field f.direction

theorem blank_applyBounds (hq : q.blank = q'.blank) (b : Bounds) :
    (Translator.applyBounds q b).blank = (Translator.applyBounds q' b).blank := by
  have hlimit : ∀ n : Quantity, (q.withLimit n).blank = (q'.withLimit n).blank := SelectQuery.blank_withLimit hq
  unfold Translator.applyBounds
  cases b.limit with
  | none =>
    cases b.offset with
    | none => exact hq
    | some m => exact SelectQuery.blank_withOffset hq _
  | some n =>
    cases b.offset with
    | none => exact hlimit _
    | some m => exact SelectQuery.blank_withOffset (hlimit _) _

theorem alike_applyWindow (t : Translator) (hq : q.blank = q'.blank) (s : Option PageSpec) :
    Alike (t.applyWindow q s) (t.applyWindow q' s) := by
  cases s with
  | none => exact .ok hq
  | some s =>
    unfold Translator.applyWindow
    dsimp only
    cases s.resolve t.config.strict t.config.maxPageSize with
    | error f => exact .refl _
    | ok b => exact .ok (blank_applyBounds hq b)

/-! ## Requests -/

theorem alike_query (hS : ∀ v v', S v v' → v.isWritable = v'.isWritable) (config : EngineConfig)
    (resolver : TableResolver) (w : Option Whitelist) (e : Entity) {r r' : QueryRequest} (h : r.Agrees S r') :
    Alike (Translator.query { config, resolver } w e r) (Translator.query { config, resolver } w e r') := by
  have hsort : r.sortValue = r'.sortValue := by
    unfold QueryRequest.sortValue
    rw [h.sort]
  unfold Translator.query
  rw [h.fields, hsort, h.pagination]
  -- Stage by stage: from two queries that read the same to two queries that read the same.
  refine Alike.bind (.refl _) fun q q' hq => ?_
  refine Alike.bind (alike_applyProjection hq _) fun q q' hq => ?_
  refine Alike.bind (alike_applyFilters hS config.strict hq h.filters) fun q q' hq => ?_
  refine Alike.bind (alike_applySearch config.strict hq h.search) fun q q' hq => ?_
  refine Alike.bind (alike_applySort config.strict hq _) fun q q' hq => ?_
  exact alike_applyWindow _ hq _

/-- Two queries that read the same, apart from the values of their parameters. -/
structure SelectQuery.ReadsSame (q q' : SelectQuery) : Prop where
  sql : q.sql = q'.sql
  countText : ∀ label, (q.countStatement label).map Statement.text = (q'.countStatement label).map Statement.text
  names : Keyed.keys q.parameters = Keyed.keys q'.parameters
  limit : q.limit = q'.limit
  offset : q.offset = q'.offset

theorem SelectQuery.readsSame_of_blank (h : q.blank = q'.blank) : q.ReadsSame q' where
  sql := by rw [← sql_blank q, h, sql_blank]
  countText label := by rw [← countStatement_blank q, h, countStatement_blank]
  names := by rw [← keys_parameters_blank q, h, keys_parameters_blank]
  limit := show q.blank.limit = q'.blank.limit by rw [h]
  offset := show q.blank.offset = q'.blank.offset by rw [h]

/-- Requests that differ in values only give queries that read the same, or fail in the same way but for
what a refusal says of the value, if the values that are turned into texts have texts on both sides or
on neither. -/
theorem Translator.query_noninterference (config : EngineConfig) (resolver : TableResolver)
    (w : Option Whitelist) (e : Entity) {r r' : QueryRequest}
    (h : r.Agrees (fun v v' => v.isWritable = v'.isWritable) r') :
    (∃ q q', Translator.query { config, resolver } w e r = .ok q ∧
      Translator.query { config, resolver } w e r' = .ok q' ∧ q.ReadsSame q') ∨
    (∃ f f', Translator.query { config, resolver } w e r = .error f ∧
      Translator.query { config, resolver } w e r' = .error f' ∧
      (f = f' ∨ ∃ field fault fault', f = .rejected (.badValue field fault) ∧
        f' = .rejected (.badValue field fault'))) := by
  rcases (alike_query (fun _ _ hs => hs) config resolver w e h).cases with
    ⟨q, q', hq, hq', hblank⟩ | ⟨f, f', hf, hf', hblank⟩
  · exact .inl ⟨q, q', hq, hq', SelectQuery.readsSame_of_blank hblank⟩
  · exact .inr ⟨f, f', hf, hf', Failure.cases_of_blank hblank⟩

/-- A request for the rows whose name is like a value. -/
def nameLike (v : Value) : QueryRequest := { filters := some [("name", .map [("like", v)])] }

theorem nameLike_agrees {v v' : Value} (hnull : v.isNull = v'.isNull) (hS : S v v') :
    (nameLike v).Agrees S (nameLike v') where
  fields := rfl
  filters := by
    refine .cons ⟨rfl, .map (.cons ⟨rfl, fun op hop => ?_, fun hmod => ?_⟩ .nil)⟩ .nil
    · obtain rfl : op = .like := Operator.name_injective hop
      exact ⟨hnull, hS⟩
    · exact absurd (List.mem_singleton.1 hmod) (by decide : "like" ≠ "exact")
  search := .none
  sort := rfl
  pagination := rfl

theorem query_nameLike_reads_same : ∃ q q',
    Translator.query {} none (.value (.text "users")) (nameLike (.text "A%")) = .ok q ∧
    Translator.query {} none (.value (.text "users")) (nameLike (.text "x' OR 1=1 --")) = .ok q' ∧
    q.ReadsSame q' := by
  have hfirst : Translator.query {} none (.value (.text "users")) (nameLike (.text "A%")) = .ok _ := rfl
  rcases Translator.query_noninterference {} .named none (.value (.text "users"))
    (nameLike_agrees rfl rfl : (nameLike (.text "A%")).Agrees _ (nameLike (.text "x' OR 1=1 --"))) with
    h | ⟨f, _, hf, -⟩
  · exact h
  · rw [hfirst] at hf
    cases hf

/-- An object with a number of 4301 digits, which is too long to be written. -/
def longUser : Value := .record "User" [("id", .int (Int.pow 10 4300)), ("name", .text "x")]

/-- A value without a text shows, where one with a text does not. -/
theorem unwritable_pattern_shows :
    (nameLike (.text "x")).Agrees (fun _ _ => True) (nameLike longUser) ∧
    (∃ q, Translator.query {} none (.value (.text "users")) (nameLike (.text "x")) = .ok q) ∧
    ∃ f, Translator.query {} none (.value (.text "users")) (nameLike longUser) = .error f := by
  refine ⟨nameLike_agrees rfl trivial, ⟨_, rfl⟩, ?_⟩
  -- Left to the kernel, which has fast arithmetic for a number of this size.
  have hfails : (Translator.query {} none (.value (.text "users")) (nameLike longUser)).isOk = false := by
    decide +kernel
  cases h : Translator.query {} none (.value (.text "users")) (nameLike longUser) with
  | error f => exact ⟨f, rfl⟩
  | ok q =>
    rw [h] at hfails
    cases hfails

end PagedSelect
