import PagedSelect.Engine.Translator
import PagedSelect.Proofs.Engine.Steps
import PagedSelect.Proofs.Page.Window
/-!
# The window of a translated query

Projection, filters, search and order leave limit and offset alone, as long as a caller's operators do.
So the window of a query is the one that the request asks for, and nothing else.
-/

namespace PagedSelect

variable {q q' : SelectQuery} {w : Option Whitelist} {placeholder : String}

/-- No amount may become a limit or an offset. -/
abbrev noAmount : Quantity → Prop := fun _ => False

/-- Effects without amounts give no window to a query that starts at a table. -/
theorem SelectQuery.WellFormed.unlimited (h : q.WellFormed noAmount placeholder) :
    q.limit = none ∧ q.offset = none :=
  ⟨Option.eq_none_iff_forall_not_mem.2 fun n hn => (h.limit n hn).2,
    Option.eq_none_iff_forall_not_mem.2 fun n hn => (h.offset n hn).2⟩

namespace Translator

theorem applyProjection_effects {A : Quantity → Prop} {columns : Option (List String)}
    (h : applyProjection w q columns = .ok q') : Effects A q q' := by
  unfold applyProjection at h
  split at h
  · cases h; exact .refl
  · obtain ⟨_, -, h⟩ := bind_eq_ok.1 h
    exact SelectQuery.select_effects h

/-- The bounds that a translation applies last. -/
def boundsOf (t : Translator) : Option PageSpec → Outcome Bounds
  | none => .ok ⟨none, none⟩
  | some s => s.resolve t.config.strict t.config.maxPageSize

theorem applyWindow_eq (t : Translator) (q : SelectQuery) (s? : Option PageSpec) :
    t.applyWindow q s? = (t.boundsOf s?).map (applyBounds q) := by
  cases s? <;> rfl

theorem boundsOf_within {t : Translator} {s? : Option PageSpec} {b : Bounds} (h : t.boundsOf s? = .ok b) :
    b.Within t.config.maxPageSize := by
  cases s? with
  | none => cases h; exact Bounds.within_none _
  | some s => exact PageSpec.resolve_within t.config.maxPageSize_pos h

/-- Bounds that are in order are set; where there is none, the query keeps its own. -/
theorem applyBounds_eq {bound : Option Int} {b : Bounds} (hb : b.Within bound) (q : SelectQuery) :
    applyBounds q b = { q with
      limit := (b.limit.map .whole).or q.limit
      offset := (b.offset.map .whole).or q.offset } := by
  obtain ⟨limit, offset⟩ := b
  have limited {n : Int} (hn : 0 < n) : q.withLimit (.whole n) = { q with limit := some (.whole n) } :=
    if_pos (decide_eq_true hn)
  have placed (q : SelectQuery) {n : Int} (hn : 0 ≤ n) :
      q.withOffset (.whole n) = { q with offset := some (.whole n) } := if_pos (decide_eq_true hn)
  cases limit with
  | none =>
    cases offset with
    | none => rfl
    | some m => simp only [applyBounds, placed q (hb.offset m rfl)]; rfl
  | some n =>
    cases offset with
    | none => simp only [applyBounds, limited (hb.limit n rfl).1]; rfl
    | some m => simp only [applyBounds, limited (hb.limit n rfl).1, placed _ (hb.offset m rfl)]; rfl

/-- Bounds that are in order become the window of a query that has none. -/
theorem applyBounds_window {bound : Option Int} {b : Bounds} (hb : b.Within bound) (hlimit : q.limit = none)
    (hoffset : q.offset = none) :
    (applyBounds q b).limit = b.limit.map .whole ∧ (applyBounds q b).offset = b.offset.map .whole := by
  rw [applyBounds_eq hb, hlimit, hoffset]
  exact ⟨Option.or_none, Option.or_none⟩

/-- The window of a query is the one that its request asks for. -/
theorem query_window {t : Translator} (ht : t.registry.HasEffects noAmount) {e : Entity} {r : QueryRequest}
    (h : t.query w e r = .ok q) :
    ∃ b, t.boundsOf r.pagination = .ok b ∧ b.Within t.config.maxPageSize ∧ q.limit = b.limit.map .whole ∧
      q.offset = b.offset.map .whole := by
  obtain ⟨q₀, h₀, h⟩ := bind_eq_ok.1 h
  obtain ⟨q₁, h₁, h⟩ := bind_eq_ok.1 h
  obtain ⟨q₂, h₂, h⟩ := bind_eq_ok.1 h
  obtain ⟨q₃, h₃, h⟩ := bind_eq_ok.1 h
  obtain ⟨q₄, h₄, h₅⟩ := bind_eq_ok.1 h
  obtain ⟨table, -, h₀⟩ := bind_eq_ok.1 h₀
  have heffects : Effects noAmount q₀ q₄ :=
    (((applyProjection_effects h₁).trans (applyFilters_effects ht h₂)).trans (applySearch_effects h₃)).trans
      (applySort_effects h₄)
  obtain ⟨hlimit, hoffset⟩ := ((SelectQuery.wellFormed_ofTable h₀).effects heffects).unlimited
  rw [applyWindow_eq] at h₅
  obtain ⟨b, hb, rfl⟩ := map_eq_ok.1 h₅
  have hwithin := boundsOf_within hb
  exact ⟨b, hb, hwithin, applyBounds_window hwithin hlimit hoffset⟩

/-! ## Windows that are asked for -/

/-- The window is the last thing that a query gets. -/
theorem query_eq_bind (t : Translator) (w : Option Whitelist) (e : Entity) (r : QueryRequest) :
    t.query w e r = t.query w e { r with pagination := none } >>= fun q => t.applyWindow q r.pagination := by
  simp only [query, bind_assoc]
  rfl

/-- Setting a page by hand is the same as asking for it, as long as sizes have no bound. -/
theorem paginate_of_resolve {strict : Bool} {s : PageSpec} {b : Bounds} {page size : Int}
    (h : s.resolve strict none = .ok b) (hpage : s.page = some page) (hsize : s.pageSize = some size) (q : SelectQuery) :
    q.paginate (.whole page) (.whole size) = .ok (applyBounds q b) := by
  have hasks : s.AsksFor none b := PageSpec.resolve_asksFor (by simp) h
  by_cases hpos : 0 < page ∧ 0 < size
  · have hpositive : (Quantity.whole page).isPositive && (Quantity.whole size).isPositive := by
      simp [Quantity.isPositive, hpos]
    rw [hasks.page page hpage size hsize hpos.1 hpos.2, SelectQuery.paginate, if_pos hpositive]
    rfl
  · have hnot : ¬ ((Quantity.whole page).isPositive && (Quantity.whole size).isPositive) := by
      simpa [Quantity.isPositive] using hpos
    rw [hasks.noPage page hpage size hsize hpos, SelectQuery.paginate, if_neg hnot]
    rfl

/-- What the window of a request is resolved to is in order and what the request asks for; limit and offset play
no part in it next to a page, and in lenient mode all that it takes is amounts that can be written.  A query gets
this window and no other, and without a bound on sizes it is the one that a caller would set page by page. -/
theorem query_paged (t : Translator) (w : Option Whitelist) (e : Entity) (r : QueryRequest) (s : PageSpec) :
    (∀ b, s.resolve t.config.strict t.config.maxPageSize = .ok b →
      b.Within t.config.maxPageSize ∧ s.AsksFor t.config.maxPageSize b) ∧
    (s.page ≠ none → s.pageSize ≠ none → ∀ limit offset,
      { s with limit, offset }.resolve t.config.strict t.config.maxPageSize
        = s.resolve t.config.strict t.config.maxPageSize) ∧
    (t.config.strict = false → (∀ n ∈ s.amounts, (Value.int n).isWritable = true) →
      ∃ b, s.resolve t.config.strict t.config.maxPageSize = .ok b) ∧
    (∀ q, t.query w e { r with pagination := some s } = .ok q →
      ∃ q₀ b, t.query w e { r with pagination := none } = .ok q₀ ∧
        s.resolve t.config.strict t.config.maxPageSize = .ok b) ∧
    ∀ q₀ b, t.query w e { r with pagination := none } = .ok q₀ →
      s.resolve t.config.strict t.config.maxPageSize = .ok b →
      ∃ q, t.query w e { r with pagination := some s } = .ok q ∧
        (t.registry.HasEffects noAmount → q.limit = b.limit.map .whole ∧ q.offset = b.offset.map .whole) ∧
        (t.config.maxPageSize = none → ∀ page ∈ s.page, ∀ size ∈ s.pageSize,
          q₀.paginate (.whole page) (.whole size) = .ok q) := by
  have hsteps : t.query w e { r with pagination := some s }
      = t.query w e { r with pagination := none } >>= fun q₀ =>
        (s.resolve t.config.strict t.config.maxPageSize).map (applyBounds q₀) := query_eq_bind t w e _
  refine ⟨fun b hb => ⟨?_, ?_⟩, fun hpage hsize limit offset => ?_, fun hlenient hshort => ?_, fun q hq => ?_,
    fun q₀ b hq₀ hb => ?_⟩
  · exact PageSpec.resolve_within t.config.maxPageSize_pos hb
  · exact PageSpec.resolve_asksFor t.config.maxPageSize_pos hb
  · exact PageSpec.resolve_page_only hpage hsize limit offset
  · rw [hlenient]
    exact PageSpec.resolve_lenient t.config.maxPageSize hshort
  · obtain ⟨q₀, hq₀, hwindow⟩ := bind_eq_ok.1 (hsteps ▸ hq)
    obtain ⟨b, hb, -⟩ := map_eq_ok.1 hwindow
    exact ⟨q₀, b, hq₀, hb⟩
  · have hq : t.query w e { r with pagination := some s } = .ok (applyBounds q₀ b) := by
      rw [hsteps, hq₀, ok_bind, hb]
      rfl
    refine ⟨applyBounds q₀ b, hq, fun ht => ?_, fun hbound page hpage size hsize => ?_⟩
    · obtain ⟨b', hb', -, hlimit, hoffset⟩ := query_window ht hq
      cases hb.symm.trans hb'
      exact ⟨hlimit, hoffset⟩
    · rw [hbound] at hb
      exact paginate_of_resolve hb hpage hsize q₀

end Translator

/-- A translator that gives 25 rows on a page at most. -/
def byTwentyFive : Translator where
  config := { maxPageSize := some 25, maxPageSize_pos := by decide }

/-- A third page of a hundred rows, next to a limit and an offset. -/
def wideThirdPage : PageSpec where
  page := some 3
  pageSize := some 100
  limit := some 5
  offset := some (-1)

theorem wideThirdPage_cut : ∃ q,
    byTwentyFive.query none (.value (.text "users")) { pagination := some wideThirdPage } = .ok q ∧
    q.limit = some (.whole 25) ∧ q.offset = some (.whole 50) := by
  obtain ⟨hresolved, -, hlenient, -, hquery⟩ :=
    byTwentyFive.query_paged none (.value (.text "users")) {} wideThirdPage
  obtain ⟨b, hb⟩ := hlenient rfl (by decide)
  have hpage : b = ⟨some 25, some 50⟩ := (hresolved b hb).2.page 3 rfl 100 rfl (by decide) (by decide)
  obtain ⟨q, hq, hwindow, -⟩ := hquery _ b rfl hb
  obtain ⟨hlimit, hoffset⟩ := hwindow standard_hasEffects
  rw [hpage] at hlimit hoffset
  exact ⟨q, hq, hlimit, hoffset⟩

end PagedSelect
