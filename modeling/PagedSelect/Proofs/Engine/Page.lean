import PagedSelect.Engine.Run
import PagedSelect.Proofs.Outcome
import PagedSelect.Proofs.Page.Metadata
/-!
# Pages of a run

Once the rows are counted, fetched and mapped, a page fails only if the number of pages is too large for
a double; for as many rows as doubles can count one by one it never fails, and its number of pages is
exact.
-/

namespace PagedSelect

open Number

namespace Engine

variable {g : Engine} {mapper : RowMapper} {q : SelectQuery} {total limit : Int} {data : List Value}

theorem wholePart_map (n? : Option Int) : wholePart (n?.map .whole) = .ok n? := by
  cases n? <;> rfl

theorem eq_map_whole {n? : Option Quantity} (h : ∀ n ∈ n?, ∃ i, n = .whole i) :
    ∃ i? : Option Int, n? = i?.map .whole := by
  cases n? with
  | none => exact ⟨none, rfl⟩
  | some n =>
    obtain ⟨i, rfl⟩ := h n rfl
    exact ⟨some i, rfl⟩

/-- The page of a run whose two statements have succeeded: its metadata are all that may still fail. -/
theorem page_outcome (limit? offset? : Option Int) (hlimit : q.limit = limit?.map .whole)
    (hoffset : q.offset = offset?.map .whole) (hcount : (g.count q).outcome = .ok total)
    (hfetch : (g.fetch mapper q).outcome = .ok data) :
    (g.page mapper q).outcome = (PageMetadata.ofWindow total limit? offset? data.length).map fun metadata =>
      .assemble data total metadata limit? offset? := by
  unfold page
  rw [Traced.outcome_bind hcount, Traced.outcome_bind hfetch, hlimit, hoffset, wholePart_map, wholePart_map]
  rfl

/-- Behind its two statements a page fails if it has a limit and the number of pages is too large for a double,
and in no other case. -/
theorem page_fails_iff (htotal : 0 ≤ total) (hlimit : 1 ≤ limit) (hqlimit : ∀ n ∈ q.limit, n = .whole limit)
    (hqoffset : ∀ n ∈ q.offset, ∃ i, n = .whole i) (hcount : (g.count q).outcome = .ok total)
    (hfetch : (g.fetch mapper q).outcome = .ok data) :
    ((∃ f, (g.page mapper q).outcome = .error f) ↔ q.limit ≠ none ∧ (overflow : Int) * limit ≤ total) ∧
    ∀ page, (g.page mapper q).outcome = .ok page → page.data = data ∧ page.totalCount = total := by
  obtain ⟨offset, hoffset⟩ := eq_map_whole hqoffset
  cases hq : q.limit with
  | none =>
    have hpage : (g.page mapper q).outcome = .ok (.assemble data total {} none offset) :=
      page_outcome none offset hq hoffset hcount hfetch
    rw [hpage]
    refine ⟨iff_of_false ?_ fun h => h.1 rfl, fun page h => ?_⟩
    · rintro ⟨f, h⟩
      cases h
    · cases h
      exact ⟨rfl, rfl⟩
  | some n =>
    obtain rfl := hqlimit n hq
    have hfails : (∃ f, PageMetadata.ofWindow total (some limit) offset data.length = .error f) ↔
        (overflow : Int) * limit ≤ total := PageMetadata.ofWindow_fails_iff htotal hlimit
    rw [page_outcome (some limit) offset hq hoffset hcount hfetch, ← hfails]
    cases PageMetadata.ofWindow total (some limit) offset data.length with
    | error f => exact ⟨iff_of_true ⟨f, rfl⟩ ⟨Option.some_ne_none _, f, rfl⟩, nofun⟩
    | ok metadata =>
      refine ⟨iff_of_false ?_ ?_, fun page h => ?_⟩
      · rintro ⟨f, h⟩
        cases h
      · rintro ⟨-, f, h⟩
        cases h
      · cases h
        exact ⟨rfl, rfl⟩

/-- The metadata of a page fail only beyond the doubles, and so does a page behind its two statements.  Up to
the rows that doubles can count one by one the number of pages is exact. -/
theorem page_count_exact {total limit : Int} (htotal : 0 ≤ total) (hlimit : 1 ≤ limit) :
    (∀ offset returned, (∃ f, PageMetadata.ofWindow total (some limit) offset returned = .error f) ↔
      (overflow : Int) * limit ≤ total) ∧
    (∀ (g : Engine) (mapper : RowMapper) (q : SelectQuery) (data : List Value),
      (∀ n ∈ q.limit, n = .whole limit) → (∀ n ∈ q.offset, ∃ i, n = .whole i) →
      (g.count q).outcome = .ok total → (g.fetch mapper q).outcome = .ok data →
      ((∃ f, (g.page mapper q).outcome = .error f) ↔ q.limit ≠ none ∧ (overflow : Int) * limit ≤ total) ∧
      ∀ page, (g.page mapper q).outcome = .ok page → page.data = data ∧ page.totalCount = total) ∧
    (total ≤ twoTo 53 → limit < twoTo 1075 →
      (∀ offset returned, ∃ m pages, PageMetadata.ofWindow total (some limit) offset returned = .ok m ∧
        m.totalPages = some pages ∧ IsPageCount total limit pages) ∧
      ∀ (g : Engine) (mapper : RowMapper) (q : SelectQuery) (data : List Value),
        (∀ n ∈ q.limit, n = .whole limit) → (∀ n ∈ q.offset, ∃ i, n = .whole i) →
        (g.count q).outcome = .ok total → (g.fetch mapper q).outcome = .ok data →
        ∃ page, (g.page mapper q).outcome = .ok page ∧ page.data = data ∧ page.totalCount = total ∧
          ∀ n ∈ q.limit, ∃ pages, page.totalPages = some pages ∧ IsPageCount total limit pages) := by
  refine ⟨fun offset returned => PageMetadata.ofWindow_fails_iff htotal hlimit, fun g mapper q data => ?_,
    fun hcountable hsmall => ?_⟩
  · exact page_fails_iff htotal hlimit
  have hexact (offset : Option Int) (returned : Int) :
      ∃ m pages, PageMetadata.ofWindow total (some limit) offset returned = .ok m ∧
        m.totalPages = some pages ∧ IsPageCount total limit pages :=
    PageMetadata.ofWindow_exact htotal hlimit hcountable hsmall
  refine ⟨hexact, fun g mapper q data hqlimit hqoffset hcount hfetch => ?_⟩
  obtain ⟨offset, hoffset⟩ := eq_map_whole hqoffset
  cases hq : q.limit with
  | none =>
    exact ⟨_, page_outcome none offset hq hoffset hcount hfetch, rfl, rfl, fun n hn => nomatch hn⟩
  | some n =>
    obtain rfl := hqlimit n hq
    obtain ⟨m, pages, hm, hpages, hcounted⟩ := hexact offset data.length
    refine ⟨.assemble data total m (some limit) offset, ?_, rfl, rfl, fun _ _ => ⟨pages, hpages, hcounted⟩⟩
    rw [page_outcome (some limit) offset hq hoffset hcount hfetch, hm]
    rfl

end Engine

/-- A store of five rows that gives two of them. -/
def fiveRows : Store := ⟨fun _ => .ok (.int 5), fun _ => .ok [[], []]⟩

/-- The first two rows of a table. -/
def firstTwo : SelectQuery where
  table := "users"
  placeholder := ":"
  projection := .columns ["*"]
  predicates := []
  ordering := []
  limit := some (.whole 2)
  offset := none
  bindings := []
  nextParam := 0

theorem Engine.page_of_five : ∃ page pages, (Engine.page ⟨{}, fiveRows⟩ .asMap firstTwo).outcome = .ok page ∧
    page.totalPages = some pages ∧ IsPageCount 5 2 pages := by
  have hcountable : (5 : Int) ≤ twoTo 53 := by decide
  have hsmall : (2 : Int) < twoTo 1075 := by decide +kernel
  have htotal : (0 : Int) ≤ 5 := by omega
  have hlimit : (1 : Int) ≤ 2 := by omega
  obtain ⟨-, hpage⟩ := (Engine.page_count_exact htotal hlimit).2.2 hcountable hsmall
  have htwo : ∀ n ∈ firstTwo.limit, n = .whole 2 := fun n hn => (Option.some.inj hn).symm
  have hoffset : ∀ n ∈ firstTwo.offset, ∃ i, n = .whole i := fun n hn => nomatch hn
  obtain ⟨page, hpage, -, -, hpages⟩ := hpage ⟨{}, fiveRows⟩ .asMap firstTwo _ htwo hoffset rfl rfl
  obtain ⟨pages, hpages, hcount⟩ := hpages (.whole 2) rfl
  exact ⟨page, pages, hpage, hpages, hcount⟩

/-- One row more than doubles can count lacks its page, a page of immense size is none, and more rows than
the greatest double have no number of pages. -/
theorem totalPages_beyond_doubles :
    (∃ m, PageMetadata.ofWindow (twoTo 53 + 1) (some 1) none 0 = .ok m ∧ m.totalPages = some (twoTo 53) ∧
      ¬ IsPageCount (twoTo 53 + 1) 1 (twoTo 53)) ∧
    (∃ m, PageMetadata.ofWindow 1 (some (twoTo 1075)) none 0 = .ok m ∧ m.totalPages = some 0 ∧
      ¬ IsPageCount 1 (twoTo 1075) 0) ∧
    PageMetadata.ofWindow (twoTo 1024) (some 1) none 0 = .error .quotientTooLarge := by
  have hmissed : PageMetadata.ceilingOfQuotient? (twoTo 53 + 1) 1 = some (twoTo 53 : Int) := by decide +kernel
  have hvanished : PageMetadata.ceilingOfQuotient? 1 (twoTo 1075) = some 0 := by decide +kernel
  have hlarge : PageMetadata.ceilingOfQuotient? (twoTo 1024) 1 = none := by decide +kernel
  have hpos : (1 : Int) ≤ twoTo 1075 := by decide +kernel
  refine ⟨⟨_, PageMetadata.ofWindow_of_pages (by omega) hmissed, rfl, fun h => ?_⟩,
    ⟨_, PageMetadata.ofWindow_of_pages hpos hvanished, rfl, fun h => ?_⟩,
    PageMetadata.ofWindow_of_none (by omega) hlarge⟩
  · have := h.enough
    omega
  · have := h.enough
    omega

end PagedSelect
