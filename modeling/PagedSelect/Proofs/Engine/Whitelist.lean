import PagedSelect.Proofs.Filter.Whitelist
import PagedSelect.Proofs.Select.Effect
/-!
# What a whitelist covers

A query that is translated under a whitelist is the one translated without it, and every field in it
stands on the whitelist for the use that the query makes of it.
-/

namespace PagedSelect

variable {q q' : SelectQuery} {w : Whitelist}

/-! ## Covered queries -/

/-- A search that looks for something somewhere. -/
def SearchSpec.isAsked (s : SearchSpec) : Bool :=
  !Text.isVoid (s.term.getD "") && (s.isMultiField || (s.field.filter (· ≠ "")).isSome)

/-- The predicates that a search makes. -/
inductive SearchSpec.Compiles (s : SearchSpec) : Predicate → Prop
  | any (fields : List String) (hs : s.fields = some fields) (n : Nat) : Compiles s (.anyLike fields n)
  | one (field : String) (hs : s.field = some field) (op : Comparison) (n : Nat) :
      Compiles s (.comparison field op n)

/-- A query in which a request uses fields only as a whitelist permits. -/
structure Whitelist.Covers (w : Whitelist) (r : QueryRequest) (q : SelectQuery) : Prop where
  /-- The columns are permitted, or the request names none. -/
  projection : (r.fields.getD [] = [] ∧ q.projection = .columns ["*"]) ∨
    ∃ names, q.projection = .columns names ∧ ∀ name ∈ names, name ∈ w.projectable
  /-- First come the predicates of filters, then that of the search, if something is looked for. -/
  predicates : ∃ (ps : List Predicate) (p? : Option Predicate), q.predicates = ps ++ p?.toList ∧
    (∀ p ∈ ps, w.CoversFilter (r.filters.getD []) p) ∧ p?.isSome = r.search.any SearchSpec.isAsked ∧
    ∀ p ∈ p?, ∃ s, r.search = some s ∧ s.Compiles p ∧ ∀ field ∈ p.fields, field ∈ w.searchable
  ordering : ∀ t ∈ q.ordering, ∃ field direction, t = .column field direction ∧ field ∈ w.sortable

/-! ## Search -/

/-- A query to which a search has added its predicate, if it is asked, over searchable fields. -/
structure SearchSpec.Adds (s : SearchSpec) (w : Whitelist) (q q' : SelectQuery) (p? : Option Predicate) : Prop where
  predicates : q'.predicates = q.predicates ++ p?.toList
  projection : q'.projection = q.projection
  ordering : q'.ordering = q.ordering
  isAsked : p?.isSome = s.isAsked
  covered : ∀ p ∈ p?, s.Compiles p ∧ ∀ field ∈ p.fields, field ∈ w.searchable

namespace SearchSpec

variable {s : SearchSpec}

theorem adds_none (h : s.isAsked = false) : s.Adds w q q none := ⟨by simp, rfl, rfl, by simp [h], by simp⟩

theorem adds_some (h : s.isAsked = true) {p : Predicate} (hp : s.Compiles p)
    (hfields : ∀ field ∈ p.fields, field ∈ w.searchable) (values : List Value) :
    s.Adds w q (q.withPredicate p values) (some p) :=
  ⟨rfl, rfl, rfl, by simp [h], fun p' hp' => by cases hp'; exact ⟨hp, hfields⟩⟩

theorem searchAny_adds (hvoid : Text.isVoid (s.term.getD "") = false) (hmulti : s.isMultiField = true)
    (hall : ∀ field ∈ s.fields.getD [], field ∈ w.searchable)
    (h : q.searchAny (s.fields.getD []) (s.term.getD "") = .ok q') : ∃ p?, s.Adds w q q' p? := by
  cases hfields : s.fields with
  | none => simp [isMultiField, hfields] at hmulti
  | some fields =>
    rw [hfields, Option.getD_some] at h hall
    have hempty : fields.isEmpty = false := by simpa [isMultiField, hfields] using hmulti
    unfold SelectQuery.searchAny at h
    rw [hempty, hvoid, if_neg (by simp)] at h
    obtain ⟨⟨⟩, -, h⟩ := bind_eq_ok.1 h
    cases h
    exact ⟨_, adds_some (by simp [isAsked, hvoid, hmulti]) (.any fields hfields _) hall _⟩

theorem textSearch_adds (hvoid : Text.isVoid (s.term.getD "") = false) {field : String}
    (hfield : s.field.filter (· ≠ "") = some field) (hallowed : field ∈ w.searchable)
    (h : q.textSearch field (s.term.getD "") s.exact = .ok q') : ∃ p?, s.Adds w q q' p? := by
  have hasked : s.isAsked = true := by
    rw [isAsked, hvoid, hfield]
    simp
  have compared {c : Comparison} {v : Value} (h : q.compare field c v = .ok q') : ∃ p?, s.Adds w q q' p? := by
    obtain ⟨-, h⟩ := Identifier.check_bind_eq_ok.1 h
    cases h
    refine ⟨_, adds_some hasked (.one field (Option.filter_eq_some_iff.1 hfield).1 c _) (fun f hf => ?_) _⟩
    rw [List.mem_singleton.1 hf]
    exact hallowed
  unfold SelectQuery.textSearch at h
  rw [hvoid, if_neg (by simp)] at h
  split at h
  · exact compared h
  · exact compared h

theorem apply_covers {strict : Bool} (h : s.apply strict (some w) q = .ok q') : ∃ p?, s.Adds w q q' p? := by
  unfold SearchSpec.apply at h
  dsimp only at h
  cases hvoid : Text.isVoid (s.term.getD "") with
  | true =>
    rw [if_pos hvoid] at h
    cases h
    exact ⟨none, adds_none (by simp [isAsked, hvoid])⟩
  | false =>
    rw [hvoid, if_neg (by simp)] at h
    split at h
    · rename_i hmulti
      obtain ⟨⟨⟩, hall, h⟩ := bind_eq_ok.1 h
      exact searchAny_adds hvoid hmulti (fun f hf => contains_eq_ok (forM_eq_ok.1 hall f hf)) h
    · rename_i hmulti
      split at h
      · rename_i field hfield
        obtain ⟨⟨⟩, hallowed, h⟩ := bind_eq_ok.1 h
        exact textSearch_adds hvoid hfield (contains_eq_ok hallowed) h
      · rename_i hfield
        split at h
        · cases h
        · cases h
          refine ⟨none, adds_none ?_⟩
          rw [isAsked, hfield]
          simp [hmulti]

end SearchSpec

/-! ## Order -/

theorem applyFields_covers {fields : List SortField} (h : SortField.applyFields (some w) q fields = .ok q') :
    q'.ordering = q.ordering ++ fields.map (fun f => .column f.field f.direction) ∧
      q'.predicates = q.predicates ∧ q'.projection = q.projection ∧ ∀ f ∈ fields, f.field ∈ w.sortable := by
  induction fields generalizing q with
  | nil => cases h; simp
  | cons f r ih =>
    unfold SortField.applyFields at h ih
    rw [List.foldlM_cons] at h
    obtain ⟨q₁, h₁, h⟩ := bind_eq_ok.1 h
    obtain ⟨⟨⟩, hallowed, h₁⟩ := bind_eq_ok.1 h₁
    obtain ⟨-, h₁⟩ := Identifier.check_bind_eq_ok.1 h₁
    cases h₁
    obtain ⟨hordering, hpredicates, hprojection, hr⟩ := ih h
    refine ⟨by simp [hordering], hpredicates, hprojection, fun f' hf' => ?_⟩
    rcases List.mem_cons.1 hf' with rfl | hf'
    · exact contains_eq_ok hallowed
    · exact hr f' hf'

/-! ## Requests -/

theorem select_columns {names : List String} (hne : names ≠ []) (h : q.select names = .ok q') :
    q' = { q with projection := .columns names } := by
  cases names with
  | nil => exact absurd rfl hne
  | cons n r =>
    obtain ⟨_, -, h⟩ := bind_eq_ok.1 h
    cases h
    rfl

theorem applyProjection_covers {columns : Option (List String)}
    (h : Translator.applyProjection (some w) q columns = .ok q') :
    q'.predicates = q.predicates ∧ q'.ordering = q.ordering ∧
      ((columns.getD [] = [] ∧ q'.projection = q.projection) ∨
        ∃ names, q'.projection = .columns names ∧ ∀ name ∈ names, name ∈ w.projectable) := by
  unfold Translator.applyProjection at h
  split at h
  · rename_i hnil
    cases h
    exact ⟨rfl, rfl, .inl ⟨hnil, rfl⟩⟩
  · rename_i hne
    obtain ⟨⟨⟩, hall, h⟩ := bind_eq_ok.1 h
    rw [select_columns hne h]
    exact ⟨rfl, rfl, .inr ⟨_, rfl, fun name hn => contains_eq_ok (forM_eq_ok.1 hall name hn)⟩⟩

/-- The query for all rows of a table. -/
theorem ofTable_parts {table placeholder : String} (h : SelectQuery.ofTable table placeholder = .ok q) :
    q.projection = .columns ["*"] ∧ q.predicates = [] ∧ q.ordering = [] := by
  obtain ⟨t, -, h⟩ := bind_eq_ok.1 h
  dsimp only at h
  split at h
  · cases h
  · cases h
    exact ⟨rfl, rfl, rfl⟩

theorem applyWindow_parts {t : Translator} {s? : Option PageSpec} (h : t.applyWindow q s? = .ok q') :
    q'.projection = q.projection ∧ q'.predicates = q.predicates ∧ q'.ordering = q.ordering := by
  have limit (n : Quantity) : (q.withLimit n).projection = q.projection ∧
      (q.withLimit n).predicates = q.predicates ∧ (q.withLimit n).ordering = q.ordering := by
    unfold SelectQuery.withLimit
    split <;> exact ⟨rfl, rfl, rfl⟩
  have offset (q : SelectQuery) (n : Quantity) : (q.withOffset n).projection = q.projection ∧
      (q.withOffset n).predicates = q.predicates ∧ (q.withOffset n).ordering = q.ordering := by
    unfold SelectQuery.withOffset
    split <;> exact ⟨rfl, rfl, rfl⟩
  cases s? with
  | none => cases h; exact ⟨rfl, rfl, rfl⟩
  | some s =>
    obtain ⟨b, -, rfl⟩ := map_eq_ok.1 h
    unfold Translator.applyBounds
    cases b.limit with
    | none =>
      cases b.offset with
      | none => exact ⟨rfl, rfl, rfl⟩
      | some m => exact offset q _
    | some n =>
      cases b.offset with
      | none => exact limit _
      | some m => simp only [offset, limit, and_self]

variable {config : EngineConfig} {resolver : TableResolver} {e : Entity}

/-- What is translated under a whitelist it covers. -/
theorem query_covers {r : QueryRequest} (h : Translator.query { config, resolver } (some w) e r = .ok q) :
    w.Covers r q := by
  obtain ⟨q₀, h₀, h⟩ := bind_eq_ok.1 h
  obtain ⟨q₁, h₁, h⟩ := bind_eq_ok.1 h
  obtain ⟨q₂, h₂, h⟩ := bind_eq_ok.1 h
  obtain ⟨q₃, h₃, h⟩ := bind_eq_ok.1 h
  obtain ⟨q₄, h₄, h₅⟩ := bind_eq_ok.1 h
  obtain ⟨table, -, h₀⟩ := bind_eq_ok.1 h₀
  obtain ⟨fields, -, h₄⟩ := bind_eq_ok.1 h₄
  obtain ⟨hproj₀, hpred₀, hord₀⟩ := ofTable_parts h₀
  obtain ⟨hpred₁, hord₁, hproj₁⟩ := applyProjection_covers h₁
  have hfilters : Restricts (w.CoversFilter (r.filters.getD [])) q₁ q₂ := applyFilters_covers h₂
  obtain ⟨ps, hpred₂, hps⟩ := hfilters.predicates
  have hsearch : ∃ p? : Option Predicate, q₃.predicates = q₂.predicates ++ p?.toList ∧
      q₃.projection = q₂.projection ∧ q₃.ordering = q₂.ordering ∧
      p?.isSome = r.search.any SearchSpec.isAsked ∧
      ∀ p ∈ p?, ∃ s, r.search = some s ∧ s.Compiles p ∧ ∀ field ∈ p.fields, field ∈ w.searchable := by
    cases hs : r.search with
    | none =>
      rw [hs] at h₃
      cases h₃
      exact ⟨none, by simp, rfl, rfl, rfl, by simp⟩
    | some s =>
      rw [hs] at h₃
      obtain ⟨p?, hp⟩ := SearchSpec.apply_covers h₃
      exact ⟨p?, hp.predicates, hp.projection, hp.ordering, hp.isAsked, fun p hmem => ⟨s, rfl, hp.covered p hmem⟩⟩
  obtain ⟨p?, hpred₃, hproj₃, hord₃, hasked, hcovered⟩ := hsearch
  obtain ⟨hord₄, hpred₄, hproj₄, hsortable⟩ := applyFields_covers h₄
  obtain ⟨hproj₅, hpred₅, hord₅⟩ := applyWindow_parts h₅
  have hproj : q.projection = q₁.projection := by rw [hproj₅, hproj₄, hproj₃, hfilters.projection]
  refine ⟨?_, ⟨ps, p?, ?_, hps, hasked, hcovered⟩, fun t ht => ?_⟩
  · rcases hproj₁ with ⟨hnone, hproj₁⟩ | ⟨names, hproj₁, hnames⟩
    · exact .inl ⟨hnone, by rw [hproj, hproj₁, hproj₀]⟩
    · exact .inr ⟨names, by rw [hproj, hproj₁], hnames⟩
  · rw [hpred₅, hpred₄, hpred₃, hpred₂, hpred₁, hpred₀, List.nil_append]
  · rw [hord₅, hord₄, hord₃, hfilters.ordering, hord₁, hord₀, List.nil_append] at ht
    obtain ⟨f, hf, rfl⟩ := List.mem_map.1 ht
    exact ⟨f.field, f.direction, rfl, hsortable f hf⟩

/-- What a whitelist may do to a translation: let a query through that it covers, or refuse a use of a
field where translation without it may succeed; a wider one lets through no less. -/
structure Whitelist.Gates (w : Whitelist) (covered : SelectQuery → Prop)
    (translate : Option Whitelist → Outcome SelectQuery) : Prop where
  sound : ∀ q, translate (some w) = .ok q → translate none = .ok q ∧ covered q
  same_failure : ∀ f, translate (some w) = .error f → f.IsNotAllowed ∨ translate none = .error f
  widens : ∀ w', w.Within w' → ∀ q, translate (some w) = .ok q → translate (some w') = .ok q

/-- A whitelist is a gate and no more, for requests as they are and as they come on the wire. -/
theorem Translator.whitelist_gates (config : EngineConfig) (resolver : TableResolver) (w : Whitelist)
    (e : Entity) :
    (∀ r, w.Gates (w.Covers r) fun w? => query { config, resolver } w? e r) ∧
    ∀ raw, w.Gates (fun q => ∃ r, QueryRequest.ofWire raw = .ok r ∧ w.Covers r q) fun w? =>
      queryOfWire { config, resolver } w? e raw := by
  refine ⟨fun r => ⟨fun q h => ⟨?_, query_covers h⟩, fun f h => ?_, fun w' hw q h => ?_⟩,
    fun raw => ⟨fun q h => ⟨?_, ?_⟩, fun f h => ?_, fun w' hw q h => ?_⟩⟩
  · exact (gated_query (.none _) _ e r).eq_of_ok h
  · exact (gated_query (.none _) _ e r).eq_of_error h
  · exact (gated_query (.some hw) _ e r).eq_of_ok h
  · exact (gated_queryOfWire (.none _) _ e raw).eq_of_ok h
  · obtain ⟨r, hr, h⟩ := bind_eq_ok.1 h
    exact ⟨r, hr, query_covers h⟩
  · exact (gated_queryOfWire (.none _) _ e raw).eq_of_error h
  · exact (gated_queryOfWire (.some hw) _ e raw).eq_of_ok h

/-- A request for the adults whose name holds a text, by name. -/
def adultsNamed (part : String) : QueryRequest where
  fields := some ["id"]
  filters := some [("age", .map [("gte", .int 18)])]
  search := some { fields := some ["name"], term := some part }
  sort := some (.tokens " -name")

/-- A whitelist for that request and no more. -/
def adultsOnly : Whitelist := ⟨[("age", ["gte"])], ["name"], ["id"], ["name"]⟩

theorem adultsOnly_covers : ∃ q,
    Translator.query {} (some adultsOnly) (.value (.text "users")) (adultsNamed "ann") = .ok q ∧
      Translator.query {} none (.value (.text "users")) (adultsNamed "ann") = .ok q ∧
      adultsOnly.Covers (adultsNamed "ann") q := by
  have h : Translator.query {} (some adultsOnly) (.value (.text "users")) (adultsNamed "ann") = .ok _ := rfl
  exact ⟨_, h, ((Translator.whitelist_gates {} .named adultsOnly _).1 (adultsNamed "ann")).sound _ h⟩

end PagedSelect
