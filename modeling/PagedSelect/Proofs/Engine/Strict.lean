import PagedSelect.Engine.Translator
import PagedSelect.Proofs.Filter.Strict
import PagedSelect.Proofs.Page.Window
import PagedSelect.Proofs.Sort
/-!
# Strict and lenient translation

The two modes read a request in the same way.  They differ on the requests of which lenient
translation passes over a part, which strict translation rejects: `QueryRequest.IsSkipped` lists them.
-/

namespace PagedSelect

variable {q q' : SelectQuery} {w : Option Whitelist}

/-! ## Search -/

/-- A search for a term in no field. -/
def SearchSpec.isSkipped (s : SearchSpec) : Bool :=
  !Text.isVoid (s.term.getD "") && (s.fields.getD []).isEmpty && s.field.getD "" == ""

theorem SearchSpec.apply_strict {s : SearchSpec} :
    s.apply true w q = .ok q' ↔ s.apply false w q = .ok q' ∧ s.isSkipped = false := by
  unfold SearchSpec.apply isSkipped isMultiField
  by_cases hvoid : Text.isVoid (s.term.getD "") = true
  · simp [hvoid]
  · by_cases hmulti : (s.fields.getD []).isEmpty = true
    · cases hf : s.field.filter (· ≠ "") with
      | none =>
        have hnone : s.field.getD "" = "" := by
          cases hs : s.field with
          | none => rfl
          | some f => simpa [hs, Option.filter] using hf
        simp [hvoid, hmulti, hnone]
      | some f =>
        have hsome : s.field.getD "" ≠ "" := by
          obtain ⟨hs, hne⟩ := Option.filter_eq_some_iff.1 hf
          simpa [hs] using hne
        simp [hvoid, hmulti, hsome]
    · simp [hvoid, hmulti]

/-! ## Sort -/

/-- An entry of a sort list that names no field: an object without one or with an empty one, a token of spaces,
or a token of a minus with spaces around it. -/
inductive SortEntry.IsSkipped : SortEntry → Prop
  | noField {i : SortItem} (h : i.field = none ∨ i.field = some "") : IsSkipped (.item i)
  | void {s : String} (h : Text.isVoid s = true) : IsSkipped (.token s)
  | minus {pre post : String} (hpre : Text.isVoid pre = true) (hpost : Text.isVoid post = true) :
      IsSkipped (.token (pre ++ "-" ++ post))

theorem SortEntry.isSkipped_item {i : SortItem} :
    (item i).IsSkipped ↔ i.field = none ∨ i.field = some "" := by
  constructor
  · rintro ⟨h⟩
    exact h
  · exact .noField

/-- The tokens that are passed over are those that are read as no field. -/
theorem SortEntry.isSkipped_token {s : String} : (token s).IsSkipped ↔ SortField.ofToken? s = none := by
  rw [SortField.ofToken?_eq_none]
  constructor
  · rintro (_ | h | ⟨hpre, hpost⟩)
    · exact .inl h
    · exact .inr ⟨_, _, hpre, hpost, rfl⟩
  · rintro (h | ⟨pre, post, hpre, hpost, rfl⟩)
    · exact .void h
    · exact .minus hpre hpost

theorem ofItem_item (i : SortItem) :
    SortField.ofItem i.toValue
      = if (Value.ofOption .text i.field).isGiven then do
          return some {
            field := ← (Value.ofOption .text i.field).written
            direction := Direction.ofValue (.ofOption .text i.direction)
            nullsFirst := .ofOption .bool i.nullsFirst }
        else .ok none := rfl

theorem ofItem_entry (e : SortEntry) :
    ∃ f? : Option SortField, SortField.ofItem e.toValue = .ok f? ∧ (f? = none ↔ e.IsSkipped) := by
  cases e with
  | token s => exact ⟨_, rfl, SortEntry.isSkipped_token.symm⟩
  | item i =>
    change ∃ f? : Option SortField, SortField.ofItem i.toValue = .ok f? ∧ _
    rw [ofItem_item, SortEntry.isSkipped_item]
    cases hf : i.field with
    | none => exact ⟨none, rfl, by simp⟩
    | some field =>
      by_cases hne : field = ""
      · exact ⟨none, by simp [Value.ofOption, Value.isGiven, hne], by simp [hne]⟩
      · simp only [Value.ofOption, Value.isGiven, bne_iff_ne, ne_eq, hne, not_false_eq_true, if_true, written_text,
          ok_bind]
        exact ⟨_, rfl, by simp [hne]⟩

theorem ofItems_strict {es : List SortEntry} {fields : List SortField} :
    SortField.ofItems true (es.map SortEntry.toValue) = .ok fields ↔
      SortField.ofItems false (es.map SortEntry.toValue) = .ok fields ∧ ∀ e ∈ es, ¬ e.IsSkipped := by
  induction es generalizing fields with
  | nil => simp [SortField.ofItems]
  | cons e r ih =>
    obtain ⟨f?, hf, hskip⟩ := ofItem_entry e
    simp only [List.map_cons, SortField.ofItems, hf, ok_bind, List.mem_cons, forall_eq_or_imp, ← hskip]
    cases f? with
    | none =>
      -- Strict reading stops at such an entry, so neither side holds.
      constructor
      · intro h
        obtain ⟨⟨⟩, h, -⟩ := bind_eq_ok.1 h
        obtain ⟨_, -, h⟩ := bind_eq_ok.1 h
        cases h
      · exact fun h => absurd rfl h.2.1
    | some f =>
      simp only [bind_eq_ok, ih]
      constructor
      · rintro ⟨fs, ⟨hfs, hr⟩, h⟩
        exact ⟨⟨fs, hfs, h⟩, Option.some_ne_none f, hr⟩
      · rintro ⟨⟨fs, hfs, h⟩, -, hr⟩
        exact ⟨fs, ⟨hfs, hr⟩, h⟩

theorem resolveSort_strict {r : QueryRequest} {fields : List SortField} :
    SortField.resolve true r.sortValue = .ok fields ↔
      SortField.resolve false r.sortValue = .ok fields ∧
        ∀ es, r.sort = some (.entries es) → ∀ e ∈ es, ¬ e.IsSkipped := by
  unfold QueryRequest.sortValue
  cases hsort : r.sort with
  | none => exact ⟨fun h => ⟨h, fun _ he => by cases he⟩, fun h => h.1⟩
  | some sort =>
    cases sort with
    | map members => exact ⟨fun h => ⟨h, fun _ he => by cases he⟩, fun h => h.1⟩
    | tokens s => exact ⟨fun h => ⟨h, fun _ he => by cases he⟩, fun h => h.1⟩
    | entries es =>
      cases es with
      | nil => exact ⟨fun h => ⟨h, fun _ he => by cases he; simp⟩, fun h => h.1⟩
      | cons e r =>
        have hitems (strict : Bool) : SortField.resolve strict (.list ((e :: r).map SortEntry.toValue))
            = SortField.ofItems strict ((e :: r).map SortEntry.toValue) := rfl
        simp only [Value.ofOption, SortRequest.toValue, hitems, ofItems_strict]
        simp

theorem applySort_strict {r : QueryRequest} :
    SortField.apply true w q r.sortValue = .ok q' ↔
      SortField.apply false w q r.sortValue = .ok q' ∧
        ∀ es, r.sort = some (.entries es) → ∀ e ∈ es, ¬ e.IsSkipped := by
  unfold SortField.apply
  simp only [bind_eq_ok, resolveSort_strict]
  constructor
  · rintro ⟨fields, ⟨hf, hes⟩, h⟩
    exact ⟨⟨fields, hf, h⟩, hes⟩
  · rintro ⟨⟨fields, hf, h⟩, hes⟩
    exact ⟨fields, ⟨hf, hes⟩, h⟩

/-! ## Windows -/

/-- A window that makes no sense: a page or a size that is not above zero, one without the other, or,
for a request that names no whole page, a limit that is not above zero or an offset below zero. -/
inductive PageSpec.IsSkipped (s : PageSpec) : Prop
  | page (page size : Int) (hpage : s.page = some page) (hsize : s.pageSize = some size)
      (h : page ≤ 0 ∨ size ≤ 0) : IsSkipped s
  | half (h : s.page.isSome ≠ s.pageSize.isSome) : IsSkipped s
  | limit (n : Int) (hpage : s.page = none ∨ s.pageSize = none) (hn : s.limit = some n) (h : n ≤ 0) :
      IsSkipped s
  | offset (n : Int) (hpage : s.page = none ∨ s.pageSize = none) (hn : s.offset = some n) (h : n < 0) :
      IsSkipped s

theorem rejectIf_strict {fault : PageFault} : PageSpec.rejectIf true fault ≠ .ok () := by
  intro h
  obtain ⟨_, -, h⟩ := bind_eq_ok.1 h
  cases h

/-- What is rejected in strict mode on a condition is accepted in strict mode without it. -/
theorem rejectIf_iff {α : Type} {c : Prop} [Decidable c] {fault : PageFault} {passed kept : Outcome α} {a : α} :
    (if c then PageSpec.rejectIf true fault >>= fun _ => passed else kept) = .ok a ↔
      (if c then PageSpec.rejectIf false fault >>= fun _ => passed else kept) = .ok a ∧ ¬ c := by
  by_cases hc : c
  · simp only [if_pos hc, bind_eq_ok]
    constructor
    · rintro ⟨⟨⟩, h, -⟩
      exact absurd h rejectIf_strict
    · exact fun h => absurd hc h.2
  · simp [hc]

theorem resolveLimit_strict {bound n m : Option Int} :
    PageSpec.resolveLimit true bound n = .ok m ↔
      PageSpec.resolveLimit false bound n = .ok m ∧ ∀ i ∈ n, 0 < i := by
  cases n with
  | none => simp [PageSpec.resolveLimit]
  | some i =>
    unfold PageSpec.resolveLimit
    rw [rejectIf_iff]
    simp

theorem resolveOffset_strict {n m : Option Int} :
    PageSpec.resolveOffset true n = .ok m ↔
      PageSpec.resolveOffset false n = .ok m ∧ ∀ i ∈ n, 0 ≤ i := by
  cases n with
  | none => simp [PageSpec.resolveOffset]
  | some i =>
    unfold PageSpec.resolveOffset
    rw [rejectIf_iff]
    simp

theorem resolvePage_strict {bound : Option Int} (hbound : ∀ b ∈ bound, 0 < b) {page size : Int} {b : Bounds} :
    PageSpec.resolvePage true bound page size = .ok b ↔
      PageSpec.resolvePage false bound page size = .ok b ∧ 0 < page ∧ 0 < size := by
  by_cases h : 0 < page ∧ 0 < size
  · simp [PageSpec.resolvePage_of_pos hbound h.1 h.2, h]
  · simp only [PageSpec.resolvePage, Window.ofPage?, PageSpec.clamp_pos hbound, if_neg h, bind_eq_ok]
    constructor
    · rintro ⟨⟨⟩, h', -⟩
      exact absurd h' rejectIf_strict
    · exact fun h' => absurd h'.2 h

theorem resolveBounds_strict {bound : Option Int} {s : PageSpec} {b : Bounds} :
    s.resolveBounds true bound = .ok b ↔
      s.resolveBounds false bound = .ok b ∧ (s.page = none ∧ s.pageSize = none) ∧
        (∀ i ∈ s.limit, 0 < i) ∧ ∀ i ∈ s.offset, 0 ≤ i := by
  unfold PageSpec.resolveBounds
  by_cases hnone : s.page = none ∧ s.pageSize = none
  · simp only [hnone.1, hnone.2, Option.isSome_none, Bool.or_self, Bool.false_eq_true, if_false, pure_eq_ok,
      bind_eq_ok, resolveLimit_strict, resolveOffset_strict, and_self, true_and]
    constructor
    · rintro ⟨limit, ⟨hlimit, hl⟩, offset, ⟨hoffset, ho⟩, h⟩
      exact ⟨⟨limit, hlimit, offset, hoffset, h⟩, hl, ho⟩
    · rintro ⟨⟨limit, hlimit, offset, hoffset, h⟩, hl, ho⟩
      exact ⟨limit, ⟨hlimit, hl⟩, offset, ⟨hoffset, ho⟩, h⟩
  · -- Half a page is given, which strict mode does not read past.
    have hsome : (s.page.isSome || s.pageSize.isSome) = true := by
      cases hp : s.page <;> cases hs : s.pageSize <;> simp_all
    simp only [hsome, if_true, bind_eq_ok]
    constructor
    · rintro ⟨⟨⟩, h, -⟩
      exact absurd h rejectIf_strict
    · exact fun h => absurd h.2.1 hnone

theorem PageSpec.resolve_strict {bound : Option Int} (hbound : ∀ b ∈ bound, 0 < b) {s : PageSpec} {b : Bounds} :
    s.resolve true bound = .ok b ↔ s.resolve false bound = .ok b ∧ ¬ s.IsSkipped := by
  unfold PageSpec.resolve
  split
  · rename_i page size hpage hsize
    rw [resolvePage_strict hbound]
    refine and_congr_right fun _ => ⟨?_, fun h => ?_⟩
    · rintro ⟨hp, hs⟩ (⟨p, n, hp', hs', h⟩ | h | ⟨n, h, -, -⟩ | ⟨n, h, -, -⟩)
      · rw [hpage] at hp'
        rw [hsize] at hs'
        cases hp'
        cases hs'
        omega
      · simp [hpage, hsize] at h
      · simp [hpage, hsize] at h
      · simp [hpage, hsize] at h
    · -- Page and size are both given, so nothing but their signs can be at fault.
      by_cases hpos : 0 < page ∧ 0 < size
      · exact hpos
      · exact absurd (.page page size hpage hsize (by omega)) h
  · -- No whole page is given, so limit and offset come in, each with a fault of its own.
    rename_i hnot
    have hpage : s.page = none ∨ s.pageSize = none := by
      cases hp : s.page with
      | none => exact .inl rfl
      | some page =>
        cases hs : s.pageSize with
        | none => exact .inr rfl
        | some size => exact (hnot page size hp hs).elim
    rw [resolveBounds_strict]
    refine and_congr_right fun _ => ⟨?_, fun h => ⟨?_, fun i hi => ?_, fun i hi => ?_⟩⟩
    · rintro ⟨⟨hp, hs⟩, hl, ho⟩ (⟨p, n, hp', -, -⟩ | h | ⟨n, -, hn, h⟩ | ⟨n, -, hn, h⟩)
      · simp [hp] at hp'
      · simp [hp, hs] at h
      · have := hl n hn
        omega
      · have := ho n hn
        omega
    · by_cases hhalf : s.page.isSome = s.pageSize.isSome
      · rcases hpage with hp | hs
        · simp only [hp, Option.isSome_none] at hhalf
          exact ⟨hp, by simpa using hhalf.symm⟩
        · simp only [hs, Option.isSome_none] at hhalf
          exact ⟨by simpa using hhalf, hs⟩
      · exact absurd (.half hhalf) h
    · by_cases hpos : 0 < i
      · exact hpos
      · exact absurd (.limit i hpage hi (by omega)) h
    · by_cases hpos : 0 ≤ i
      · exact hpos
      · exact absurd (.offset i hpage hi (by omega)) h

/-! ## Requests -/

/-- The requests of which lenient translation passes over a part. -/
inductive QueryRequest.IsSkipped (r : QueryRequest) : Prop
  | filter (field : String) (condition : Members) (hf : (field, .map condition) ∈ r.filters.getD [])
      (h : PagedSelect.IsSkipped condition) : IsSkipped r
  | search (s : SearchSpec) (hs : r.search = some s) (h : s.isSkipped = true) : IsSkipped r
  | sort (es : List SortEntry) (hs : r.sort = some (.entries es)) (e : SortEntry) (he : e ∈ es)
      (h : e.IsSkipped) : IsSkipped r
  | page (s : PageSpec) (hs : r.pagination = some s) (h : s.IsSkipped) : IsSkipped r

/-- The translator with the built-in operators in one of the two modes. -/
def Translator.inMode (config : EngineConfig) (resolver : TableResolver) (strict : Bool) : Translator where
  config := { config with strict := strict }
  resolver := resolver

theorem applySearch_strict {s? : Option SearchSpec} :
    applySearch true w q s? = .ok q' ↔
      applySearch false w q s? = .ok q' ∧ ∀ s, s? = some s → s.isSkipped = false := by
  cases s? with
  | none => exact ⟨fun h => ⟨h, fun _ hs => by cases hs⟩, fun h => h.1⟩
  | some s =>
    simp only [applySearch, SearchSpec.apply_strict, Option.some.injEq, forall_eq']

namespace Translator

variable {config : EngineConfig} {resolver : TableResolver} {e : Entity} {r : QueryRequest}

theorem applyWindow_strict {s? : Option PageSpec} :
    (inMode config resolver true).applyWindow q s? = .ok q' ↔
      (inMode config resolver false).applyWindow q s? = .ok q' ∧ ∀ s, s? = some s → ¬ s.IsSkipped := by
  cases s? with
  | none => exact ⟨fun h => ⟨h, fun _ hs => by cases hs⟩, fun h => h.1⟩
  | some s =>
    simp only [applyWindow, map_eq_ok, inMode, PageSpec.resolve_strict config.maxPageSize_pos,
      Option.some.injEq, forall_eq']
    constructor
    · rintro ⟨b, ⟨hb, hs⟩, h⟩
      exact ⟨⟨b, hb, h⟩, hs⟩
    · rintro ⟨⟨b, hb, h⟩, hs⟩
      exact ⟨b, ⟨hb, hs⟩, h⟩

/-- Strict translation gives what lenient translation gives of a request without skipped parts. -/
theorem query_strict_iff :
    (inMode config resolver true).query w e r = .ok q ↔
      (inMode config resolver false).query w e r = .ok q ∧ ¬ r.IsSkipped := by
  have hqueryFor : (inMode config resolver true).queryFor e = (inMode config resolver false).queryFor e := rfl
  have hfilters (q q' : SelectQuery) :
      (inMode config resolver true).applyFilters w q r.filters = .ok q' ↔ _ := applyFilters_strict
  simp only [query, bind_eq_ok, hqueryFor]
  -- The table and the projection are read alike; each stage behind them adds one way to be skipped.
  constructor
  · rintro ⟨q₀, h₀, q₁, h₁, q₂, h₂, q₃, h₃, q₄, h₄, h₅⟩
    obtain ⟨h₂, hf⟩ := (hfilters q₁ q₂).1 h₂
    obtain ⟨h₃, hs⟩ := applySearch_strict.1 h₃
    obtain ⟨h₄, ho⟩ := applySort_strict.1 h₄
    obtain ⟨h₅, hp⟩ := applyWindow_strict.1 h₅
    refine ⟨⟨q₀, h₀, q₁, h₁, q₂, h₂, q₃, h₃, q₄, h₄, h₅⟩, ?_⟩
    rintro (⟨field, condition, hmem, h⟩ | ⟨s, hsome, h⟩ | ⟨es, hsome, e, he, h⟩ | ⟨s, hsome, h⟩)
    · exact hf field condition hmem h
    · rw [hs s hsome] at h
      cases h
    · exact ho es hsome e he h
    · exact hp s hsome h
  · rintro ⟨⟨q₀, h₀, q₁, h₁, q₂, h₂, q₃, h₃, q₄, h₄, h₅⟩, hskip⟩
    refine ⟨q₀, h₀, q₁, h₁, q₂, (hfilters q₁ q₂).2 ⟨h₂, ?_⟩, q₃, applySearch_strict.2 ⟨h₃, ?_⟩, q₄,
      applySort_strict.2 ⟨h₄, ?_⟩, applyWindow_strict.2 ⟨h₅, ?_⟩⟩
    · exact fun field condition hmem h => hskip (.filter field condition hmem h)
    · exact fun s hsome => Bool.eq_false_iff.2 fun h => hskip (.search s hsome h)
    · exact fun es hsome e he h => hskip (.sort es hsome e he h)
    · exact fun s hsome h => hskip (.page s hsome h)

/-- Strict mode is lenient mode that rejects what would be skipped, and nothing else. -/
theorem strict_rejects_skipped (config : EngineConfig) (resolver : TableResolver) (w : Option Whitelist)
    (e : Entity) (r : QueryRequest) :
    (∀ q, (inMode config resolver true).query w e r = .ok q →
      (inMode config resolver false).query w e r = .ok q) ∧
    ∀ q, (inMode config resolver false).query w e r = .ok q →
      ((∃ f, (inMode config resolver true).query w e r = .error f) ↔ r.IsSkipped) := by
  refine ⟨fun q h => (query_strict_iff.1 h).1, fun q h => ⟨?_, fun hskip => ?_⟩⟩
  · rintro ⟨f, hf⟩
    by_cases hskip : r.IsSkipped
    · exact hskip
    · rw [query_strict_iff.2 ⟨h, hskip⟩] at hf
      cases hf
  · cases hs : (inMode config resolver true).query w e r with
    | error f => exact ⟨f, rfl⟩
    | ok q' => exact absurd hskip (query_strict_iff.1 hs).2

/-- A misspelt operator beside a good one is passed over, or rejected in strict mode. -/
theorem strict_rejects_misspelt :
    (∃ q, (inMode {} .named false).query none (.value (.text "users"))
      { filters := some [("age", .map [("gte", .int 18), ("les", .int 65)])] } = .ok q) ∧
    ∃ f, (inMode {} .named true).query none (.value (.text "users"))
      { filters := some [("age", .map [("gte", .int 18), ("les", .int 65)])] } = .error f := by
  have hlenient : (inMode {} .named false).query none (.value (.text "users"))
      { filters := some [("age", .map [("gte", .int 18), ("les", .int 65)])] } = .ok _ := rfl
  refine ⟨⟨_, hlenient⟩, ((strict_rejects_skipped {} .named none _ _).2 _ hlenient).2 ?_⟩
  refine .filter "age" _ List.mem_cons_self (.unknown "les" (by decide) (fun op => ?_) (by decide))
  cases op <;> decide

end Translator

end PagedSelect
