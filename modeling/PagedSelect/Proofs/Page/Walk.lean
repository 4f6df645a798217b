import PagedSelect.Engine.Config
import PagedSelect.Proofs.Outcome
import PagedSelect.Proofs.Page.Metadata
import PagedSelect.Proofs.Page.Window
/-!
# Walking the pages

A client asks for the first page of a table and goes on while the metadata say that rows follow.  The
windows of the pages lie side by side, so the client gets every row once and in order.  It stops behind
the last page; a table without rows takes one request.
-/

namespace PagedSelect

open Number

/-! ## Rows of a window -/

namespace Bounds

/-- The rows of a table that a statement with these bounds gives. -/
def rows {α : Type} (b : Bounds) (table : List α) : List α :=
  let behind := table.drop (b.offset.getD 0).toNat
  match b.limit with
  | none => behind
  | some n => behind.take n.toNat

/-- The positions, counted from zero, that these bounds select. -/
def Holds (b : Bounds) (position : Int) : Prop :=
  b.offset.getD 0 ≤ position ∧ ∀ n ∈ b.limit, position < b.offset.getD 0 + n

theorem length_rows {α : Type} (table : List α) {limit offset : Int} (hlimit : 0 ≤ limit) (hoffset : 0 ≤ offset) :
    ((rows ⟨some limit, some offset⟩ table).length : Int) = min limit (max 0 (table.length - offset)) := by
  simp only [rows, Option.getD_some, List.length_take, List.length_drop]
  omega

/-- A window and all behind it are all from its start on. -/
theorem rows_append_drop {α : Type} (table : List α) {limit offset : Int} (hlimit : 0 ≤ limit) (hoffset : 0 ≤ offset) :
    rows ⟨some limit, some offset⟩ table ++ table.drop (offset + limit).toNat = table.drop offset.toNat := by
  rw [Int.toNat_add hoffset hlimit, ← List.drop_drop]
  exact List.take_append_drop _ _

end Bounds

/-! ## Windows of pages -/

/-- The limit of the pages of a size, under the settings of an engine. -/
def EngineConfig.pageLimit (config : EngineConfig) (size : Int) : Int := PageSpec.clamp size config.maxPageSize

/-- The window of a page, under the settings of an engine. -/
def EngineConfig.pageBounds (config : EngineConfig) (size page : Int) : Outcome Bounds :=
  PageSpec.resolve config.strict config.maxPageSize { page := some page, pageSize := some size }

variable {config : EngineConfig} {size : Int}

theorem pageLimit_pos (hsize : 1 ≤ size) : 1 ≤ config.pageLimit size :=
  (PageSpec.clamp_pos config.maxPageSize_pos).2 hsize

theorem pageLimit_le : config.pageLimit size ≤ size := by
  unfold EngineConfig.pageLimit PageSpec.clamp
  cases config.maxPageSize with
  | none => exact le_refl size
  | some bound => exact min_le_left size bound

theorem pageBounds_eq (hsize : 1 ≤ size) {page : Int} (hpage : 1 ≤ page) :
    config.pageBounds size page
      = .ok ⟨some (config.pageLimit size), some ((page - 1) * config.pageLimit size)⟩ :=
  PageSpec.resolvePage_of_pos config.maxPageSize_pos hpage hsize config.strict

/-- Every position lies in the window of one page and of no other. -/
theorem existsUnique_page (hsize : 1 ≤ size) {position : Int} (hposition : 0 ≤ position) :
    ∃! page, 1 ≤ page ∧ ∃ b, config.pageBounds size page = .ok b ∧ b.Holds position := by
  have hlimit : 0 < config.pageLimit size := pageLimit_pos hsize
  have hquotient : 0 ≤ position / config.pageLimit size := Int.ediv_nonneg hposition hlimit.le
  have hpage : 1 ≤ position / config.pageLimit size + 1 := by omega
  refine ⟨position / config.pageLimit size + 1, ⟨hpage, _, pageBounds_eq hsize hpage, ?_⟩, ?_⟩
  · rw [Int.add_sub_cancel]
    refine ⟨Int.ediv_mul_le position hlimit.ne', fun n hn => ?_⟩
    cases hn
    rw [Option.getD_some, ← add_one_mul]
    exact Int.lt_ediv_add_one_mul_self position hlimit
  · rintro page ⟨hpage, b, hb, hlow, hhigh⟩
    rw [pageBounds_eq hsize hpage] at hb
    cases hb
    have hhigh := hhigh _ rfl
    rw [Option.getD_some] at hlow hhigh
    rw [← add_one_mul, Int.sub_add_cancel] at hhigh
    have hle : page - 1 ≤ position / config.pageLimit size := (Int.le_ediv_iff_mul_le hlimit).2 hlow
    have hlt : position / config.pageLimit size < page := (Int.ediv_lt_iff_lt_mul hlimit).2 hhigh
    omega

/-! ## Metadata of pages -/

/-- A page is not the last one exactly if rows follow its window. -/
theorem IsPageCount.lt_iff {total limit pages page : Int} (h : IsPageCount total limit pages) (htotal : 0 ≤ total)
    (hlimit : 0 < limit) (hpage : 1 ≤ page) : page < pages ↔ page * limit < total := by
  constructor
  · intro hlt
    have hsome : 0 < total := by
      rcases htotal.eq_or_lt with hzero | hsome
      · have := h.none_of_zero hzero.symm
        omega
      · exact hsome
    calc page * limit ≤ (pages - 1) * limit := Int.mul_le_mul_of_nonneg_right (by omega) hlimit.le
      _ < total := h.not_fewer hsome
  · intro hlt
    exact lt_of_mul_lt_mul_right (hlt.trans_le h.enough) hlimit.le

/-- The metadata of a page among so many pages. -/
def PageMetadata.among (pages limit page : Int) : PageMetadata where
  currentPage := some page
  pageSize := some limit
  totalPages := some pages
  hasMore := page < pages

/-- The metadata of every page of a table, from the rows that a store gives for its window. -/
theorem ofWindow_page {total limit : Int} (htotal : 0 ≤ total) (hlimit : 1 ≤ limit) (hcountable : total ≤ twoTo 53)
    (hsmall : limit ≤ twoTo 53) : ∃ pages, IsPageCount total limit pages ∧ ∀ page, 1 ≤ page →
      PageMetadata.ofWindow total (some limit) (some ((page - 1) * limit))
        (min limit (max 0 (total - (page - 1) * limit))) = .ok (.among pages limit page) := by
  have hbelow : limit < twoTo 1075 := hsmall.trans_lt (by decide +kernel)
  obtain ⟨pages, hpages, hcount⟩ := PageMetadata.ceilingOfQuotient?_exact htotal hlimit hcountable hbelow
  refine ⟨pages, hcount, fun page hpage => ?_⟩
  have hend : page * limit = (page - 1) * limit + limit := by rw [← add_one_mul, Int.sub_add_cancel]
  have hcurrent : ((page - 1) * limit).fdiv limit + 1 = page := by
    rw [Int.mul_fdiv_cancel _ (by omega)]
    omega
  -- A window that is cut short ends where the rows end; a whole one ends where the next page starts.
  have hmore : (page - 1) * limit + min limit (max 0 (total - (page - 1) * limit)) < total ↔ page < pages := by
    rw [hcount.lt_iff htotal (by omega) hpage, hend]
    omega
  rw [PageMetadata.ofWindow_of_pages hlimit hpages, Option.getD_some, hcurrent, decide_eq_decide.2 hmore]
  rfl

/-! ## Clients -/

/-- What a client gets for a page. -/
structure Visit (α : Type) where
  rows : List α
  metadata : PageMetadata

/-- A client asks for a page of a table. -/
def visit {α : Type} (config : EngineConfig) (size : Int) (table : List α) (page : Int) : Outcome (Visit α) := do
  let b ← config.pageBounds size page
  let metadata ← PageMetadata.ofWindow table.length b.limit b.offset (b.rows table).length
  return ⟨b.rows table, metadata⟩

/-- What a client gets that starts at a page and goes on to the next one while there are more rows. -/
inductive Walk {α : Type} (config : EngineConfig) (size : Int) (table : List α) : Int → List (Visit α) → Prop
  | last {page : Int} {v : Visit α} (hv : visit config size table page = .ok v)
      (hmore : v.metadata.hasMore = false) : Walk config size table page [v]
  | next {page : Int} {v : Visit α} {visits : List (Visit α)} (hv : visit config size table page = .ok v)
      (hmore : v.metadata.hasMore = true) (rest : Walk config size table (page + 1) visits) :
      Walk config size table page (v :: visits)

variable {α : Type} {table : List α}

/-- A client has no choice on its way. -/
theorem Walk.unique {page : Int} {visits others : List (Visit α)} (h : Walk config size table page visits)
    (hothers : Walk config size table page others) : others = visits := by
  induction h generalizing others with
  | last hv hmore =>
    cases hothers with
    | last hv' _ =>
      cases hv.symm.trans hv'
      rfl
    | next hv' hmore' _ =>
      cases hv.symm.trans hv'
      cases hmore.symm.trans hmore'
  | next hv hmore _ ih =>
    cases hothers with
    | last hv' hmore' =>
      cases hv.symm.trans hv'
      cases hmore.symm.trans hmore'
    | next hv' _ rest =>
      cases hv.symm.trans hv'
      rw [ih rest]

/-- The window of a page in a table. -/
def EngineConfig.pageRows (config : EngineConfig) (size : Int) (table : List α) (page : Int) : List α :=
  Bounds.rows ⟨some (config.pageLimit size), some ((page - 1) * config.pageLimit size)⟩ table

/-- The window of a page and all behind it are all from its start on. -/
theorem pageRows_append (hsize : 1 ≤ size) {page : Int} (hpage : 1 ≤ page) :
    config.pageRows size table page ++ table.drop (page * config.pageLimit size).toNat
      = table.drop ((page - 1) * config.pageLimit size).toNat := by
  have hlimit : 0 ≤ config.pageLimit size := (pageLimit_pos hsize).trans' (by omega)
  have hend : page * config.pageLimit size = (page - 1) * config.pageLimit size + config.pageLimit size := by
    rw [← add_one_mul, Int.sub_add_cancel]
  rw [hend]
  exact Bounds.rows_append_drop table hlimit (Int.mul_nonneg (by omega) hlimit)

/-- A client gets the window of the page that it asks for. -/
theorem visit_page (hsize : 1 ≤ size) {page : Int} (hpage : 1 ≤ page) {metadata : PageMetadata}
    (hmetadata : PageMetadata.ofWindow table.length (some (config.pageLimit size))
      (some ((page - 1) * config.pageLimit size))
      (min (config.pageLimit size) (max 0 (table.length - (page - 1) * config.pageLimit size))) = .ok metadata) :
    visit config size table page = .ok ⟨config.pageRows size table page, metadata⟩ := by
  have hlimit : 1 ≤ config.pageLimit size := pageLimit_pos hsize
  have hstart : 0 ≤ (page - 1) * config.pageLimit size := Int.mul_nonneg (by omega) (by omega)
  rw [visit, pageBounds_eq hsize hpage, ok_bind, Bounds.length_rows table (by omega) hstart, hmetadata]
  rfl

/-- The walk from a page on: it takes the pages that are left, and gets all rows from there on.  The
induction is on the pages that are left behind the first. -/
theorem walk_from {pages : Int} (hsize : 1 ≤ size) (hcount : IsPageCount table.length (config.pageLimit size) pages)
    (hvisit : ∀ page, 1 ≤ page → visit config size table page
      = .ok ⟨config.pageRows size table page, .among pages (config.pageLimit size) page⟩)
    (left : Nat) {page : Int} (hpage : 1 ≤ page) (hleft : (pages - page).toNat = left) :
    ∃ visits, Walk config size table page visits ∧ visits.length = left + 1 ∧
      visits.flatMap Visit.rows = table.drop ((page - 1) * config.pageLimit size).toNat := by
  induction left generalizing page with
  | zero =>
    have hlast : ¬ page < pages := by omega
    refine ⟨_, .last (hvisit page hpage) (decide_eq_false hlast), rfl, ?_⟩
    -- The rows end in the window of the last page, so nothing is left behind it.
    rw [hcount.lt_iff (by omega) (pageLimit_pos hsize) hpage] at hlast
    rw [List.flatMap_singleton, ← pageRows_append hsize hpage,
      List.drop_of_length_le (by omega : table.length ≤ _), List.append_nil]
  | succ left ih =>
    have hnext : page < pages := by omega
    obtain ⟨visits, hwalk, hlength, hrows⟩ := ih (by omega : 1 ≤ page + 1) (by omega)
    refine ⟨_, .next (hvisit page hpage) (decide_eq_true hnext) hwalk, by simp [hlength], ?_⟩
    rw [List.flatMap_cons, hrows, Int.add_sub_cancel, pageRows_append hsize hpage]

/-- Under the settings of an engine, the pages of a size are windows side by side; the metadata of each say
that there are more rows exactly in front of the last; and a client that goes on while there are more gets
every row of the table once, in order, with one request for each page and one if there is none. -/
theorem walk_gets_every_row_once (config : EngineConfig) {size : Int} (hsize : 1 ≤ size) (hsmall : size ≤ twoTo 53)
    (table : List α) (hcountable : table.length ≤ twoTo 53) :
    (∀ page, 1 ≤ page → config.pageBounds size page
      = .ok ⟨some (config.pageLimit size), some ((page - 1) * config.pageLimit size)⟩) ∧
    (∀ position, 0 ≤ position →
      ∃! page, 1 ≤ page ∧ ∃ b, config.pageBounds size page = .ok b ∧ b.Holds position) ∧
    ∃ pages, IsPageCount table.length (config.pageLimit size) pages ∧
      (∀ page, 1 ≤ page → PageMetadata.ofWindow table.length (some (config.pageLimit size))
          (some ((page - 1) * config.pageLimit size))
          (min (config.pageLimit size) (max 0 (table.length - (page - 1) * config.pageLimit size)))
        = .ok (.among pages (config.pageLimit size) page)) ∧
      ∃ visits, Walk config size table 1 visits ∧ (∀ others, Walk config size table 1 others → others = visits) ∧
        visits.length = max 1 pages ∧ visits.flatMap Visit.rows = table := by
  have hlimit : 1 ≤ config.pageLimit size := pageLimit_pos hsize
  have hcountable' : (table.length : Int) ≤ twoTo 53 := by exact_mod_cast hcountable
  obtain ⟨pages, hcount, hmetadata⟩ := ofWindow_page (by omega) hlimit hcountable' (pageLimit_le.trans hsmall)
  obtain ⟨visits, hwalk, hlength, hrows⟩ := walk_from hsize hcount
    (fun page hpage => visit_page hsize hpage (hmetadata page hpage)) (pages - 1).toNat (le_refl 1) rfl
  refine ⟨fun page hpage => pageBounds_eq hsize hpage, fun position h => existsUnique_page hsize h,
    pages, hcount, hmetadata, visits, hwalk, fun others h => hwalk.unique h, ?_, ?_⟩
  · rw [hlength]
    omega
  · simpa using hrows

/-- An engine that gives two rows on a page at most. -/
def inPairs : EngineConfig where
  maxPageSize := some 2
  maxPageSize_pos := by decide

/-- Five rows take three requests, however many are asked for on a page. -/
theorem walk_in_pairs : ∃ visits, Walk inPairs 1000 [1, 2, 3, 4, 5] 1 visits ∧ visits.length = 3 ∧
    visits.flatMap Visit.rows = [1, 2, 3, 4, 5] := by
  have hsize : (1 : Int) ≤ 1000 := by decide
  have hsmall : (1000 : Int) ≤ twoTo 53 := by decide
  have hcountable : [1, 2, 3, 4, 5].length ≤ twoTo 53 := by decide
  obtain ⟨-, -, pages, hcount, -, visits, hwalk, -, hlength, hrows⟩ :=
    walk_gets_every_row_once inPairs hsize hsmall [1, 2, 3, 4, 5] hcountable
  have hlow : (pages - 1) * 2 < 5 := hcount.not_fewer (by decide)
  have hhigh : 5 ≤ pages * 2 := hcount.enough
  exact ⟨visits, hwalk, by omega, hrows⟩

end PagedSelect
