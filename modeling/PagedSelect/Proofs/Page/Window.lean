import PagedSelect.Page.Window
import PagedSelect.Proofs.Outcome
/-!
# Windows of pages

A page and a size above zero make a window, in either mode and under every bound on sizes.  Whatever a
request asks for, a limit that it gets is above zero and no larger than the bound, and an offset is not
below zero; and it gets what it asks for, or nothing in its place.
-/

namespace PagedSelect

/-- A limit, if there is one, above zero and under the bound on sizes; an offset not below zero. -/
structure Bounds.Within (bound : Option Int) (b : Bounds) : Prop where
  limit : ∀ n ∈ b.limit, 0 < n ∧ ∀ m ∈ bound, n ≤ m
  offset : ∀ n ∈ b.offset, 0 ≤ n

theorem Bounds.within_none (bound : Option Int) : Bounds.Within bound ⟨none, none⟩ :=
  ⟨nofun, nofun⟩

namespace PageSpec

variable {bound : Option Int} {page size : Int} {strict : Bool} {b : Bounds}

/-- A bound above zero cuts a size down, but not below one. -/
theorem clamp_pos (hbound : ∀ b ∈ bound, 0 < b) : 0 < clamp size bound ↔ 0 < size := by
  cases bound with
  | none => rfl
  | some b =>
    have hb := hbound b rfl
    simp only [clamp]
    omega

theorem clamp_le : ∀ m ∈ bound, clamp size bound ≤ m := by
  rintro m ⟨⟩
  exact Int.min_le_right size m

theorem clamp_eq_elim (size : Int) (bound : Option Int) : clamp size bound = bound.elim size (min size) := by
  cases bound <;> rfl

/-! ## Pages -/

theorem resolvePage_of_pos (hbound : ∀ b ∈ bound, 0 < b) (hpage : 0 < page) (hsize : 0 < size) (strict : Bool) :
    resolvePage strict bound page size
      = .ok ⟨some (clamp size bound), some ((page - 1) * clamp size bound)⟩ := by
  have hclamp := (clamp_pos hbound).2 hsize
  simp [resolvePage, Window.ofPage?, hpage, hclamp]

/-- A page that makes no window leaves a request without one. -/
theorem resolvePage_of_not_pos (hbound : ∀ b ∈ bound, 0 < b) (hpage : ¬ (0 < page ∧ 0 < size))
    (h : resolvePage strict bound page size = .ok b) : b = ⟨none, none⟩ := by
  simp only [resolvePage, Window.ofPage?, clamp_pos hbound, if_neg hpage] at h
  obtain ⟨_, -, h⟩ := bind_eq_ok.1 h
  cases h
  rfl

theorem resolvePage_within (hbound : ∀ b ∈ bound, 0 < b) (h : resolvePage strict bound page size = .ok b) :
    b.Within bound := by
  by_cases hpos : 0 < page ∧ 0 < size
  · rw [resolvePage_of_pos hbound hpos.1 hpos.2] at h
    cases h
    have hclamp := (clamp_pos hbound).2 hpos.2
    refine ⟨fun n hn => ?_, fun n hn => ?_⟩
    · cases hn
      exact ⟨hclamp, clamp_le⟩
    · cases hn
      exact Int.mul_nonneg (by omega) (Int.le_of_lt hclamp)
  · rw [resolvePage_of_not_pos hbound hpos h]
    exact Bounds.within_none bound

/-! ## Limits and offsets -/

/-- A limit that is not above zero is dropped. -/
theorem eq_of_resolveLimit {n? m? : Option Int} (h : resolveLimit strict bound n? = .ok m?) :
    m? = (n?.filter (0 < ·)).map (clamp · bound) := by
  cases n? with
  | none => cases h; rfl
  | some n =>
    simp only [resolveLimit] at h
    split at h
    · rename_i hn
      obtain ⟨_, -, h⟩ := bind_eq_ok.1 h
      cases h
      simp [Option.filter, Int.not_lt.2 hn]
    · rename_i hn
      cases h
      simp [Option.filter, Int.not_le.1 hn]

theorem resolveLimit_within (hbound : ∀ b ∈ bound, 0 < b) {n? m? : Option Int}
    (h : resolveLimit strict bound n? = .ok m?) : ∀ m ∈ m?, 0 < m ∧ ∀ b ∈ bound, m ≤ b := by
  rw [eq_of_resolveLimit h]
  intro m hm
  obtain ⟨n, hn, rfl⟩ := Option.map_eq_some_iff.1 hm
  have hpos : 0 < n := by simpa using (Option.filter_eq_some_iff.1 hn).2
  exact ⟨(clamp_pos hbound).2 hpos, clamp_le⟩

/-- An offset below zero is dropped. -/
theorem eq_of_resolveOffset {n? m? : Option Int} (h : resolveOffset strict n? = .ok m?) :
    m? = n?.filter (0 ≤ ·) := by
  cases n? with
  | none => cases h; rfl
  | some n =>
    simp only [resolveOffset] at h
    split at h
    · rename_i hn
      obtain ⟨_, -, h⟩ := bind_eq_ok.1 h
      cases h
      simp [Option.filter, Int.not_le.2 hn]
    · rename_i hn
      cases h
      simp [Option.filter, Int.not_lt.1 hn]

theorem resolveOffset_within {n? m? : Option Int} (h : resolveOffset strict n? = .ok m?) : ∀ m ∈ m?, 0 ≤ m := by
  rw [eq_of_resolveOffset h]
  intro m hm
  simpa using (Option.filter_eq_some_iff.1 hm).2

/-- Where a request names no whole page, limit and offset are each resolved on their own. -/
theorem eq_ok_of_resolveBounds {s : PageSpec} (h : s.resolveBounds strict bound = .ok b) :
    resolveLimit strict bound s.limit = .ok b.limit ∧ resolveOffset strict s.offset = .ok b.offset := by
  have both (h : (do return (⟨← resolveLimit strict bound s.limit, ← resolveOffset strict s.offset⟩ : Bounds)) = .ok b) :
      resolveLimit strict bound s.limit = .ok b.limit ∧ resolveOffset strict s.offset = .ok b.offset := by
    obtain ⟨limit, hlimit, h⟩ := bind_eq_ok.1 h
    obtain ⟨offset, hoffset, h⟩ := bind_eq_ok.1 h
    cases h
    exact ⟨hlimit, hoffset⟩
  unfold resolveBounds at h
  dsimp only at h
  split at h
  · obtain ⟨_, -, h⟩ := bind_eq_ok.1 h
    exact both h
  · exact both h

theorem resolveBounds_within (hbound : ∀ b ∈ bound, 0 < b) {s : PageSpec} (h : s.resolveBounds strict bound = .ok b) :
    b.Within bound :=
  have ⟨hlimit, hoffset⟩ := eq_ok_of_resolveBounds h
  ⟨resolveLimit_within hbound hlimit, resolveOffset_within hoffset⟩

/-! ## Requests -/

/-- Whatever a request asks for, the bounds that it gets are in order. -/
theorem resolve_within (hbound : ∀ b ∈ bound, 0 < b) {s : PageSpec} (h : s.resolve strict bound = .ok b) :
    b.Within bound := by
  unfold resolve at h
  split at h
  · exact resolvePage_within hbound h
  · exact resolveBounds_within hbound h

theorem resolve_of_page {s : PageSpec} (hpage : s.page = some page) (hsize : s.pageSize = some size) :
    s.resolve strict bound = resolvePage strict bound page size := by
  rw [resolve, hpage, hsize]

theorem resolve_of_no_page {s : PageSpec} (h : s.page = none ∨ s.pageSize = none) :
    s.resolve strict bound = s.resolveBounds strict bound := by
  unfold resolve
  split
  · rename_i hpage hsize
    simp [hpage, hsize] at h
  · rfl

/-- What a request asks for: a page above zero of a size above zero, or else a limit above zero and an offset not
below zero, each without regard to the other.  Sizes and limits are cut down to the bound. -/
structure AsksFor (bound : Option Int) (s : PageSpec) (b : Bounds) : Prop where
  page : ∀ page ∈ s.page, ∀ size ∈ s.pageSize, 0 < page → 0 < size →
    b = ⟨some (bound.elim size (min size)), some ((page - 1) * bound.elim size (min size))⟩
  noPage : ∀ page ∈ s.page, ∀ size ∈ s.pageSize, ¬ (0 < page ∧ 0 < size) → b = ⟨none, none⟩
  limit : s.page = none ∨ s.pageSize = none →
    b.limit = (s.limit.filter (0 < ·)).map fun n => bound.elim n (min n)
  offset : s.page = none ∨ s.pageSize = none → b.offset = s.offset.filter (0 ≤ ·)

/-- Whatever a request asks for, it gets in either mode, unless it is refused. -/
theorem resolve_asksFor (hbound : ∀ b ∈ bound, 0 < b) {s : PageSpec} (h : s.resolve strict bound = .ok b) :
    s.AsksFor bound b where
  page := by
    intro page hpage size hsize hpos hsizepos
    rw [resolve_of_page hpage hsize, resolvePage_of_pos hbound hpos hsizepos, clamp_eq_elim] at h
    cases h
    rfl
  noPage := by
    intro page hpage size hsize hpos
    rw [resolve_of_page hpage hsize] at h
    exact resolvePage_of_not_pos hbound hpos h
  limit := by
    intro hs
    rw [resolve_of_no_page hs] at h
    simpa only [clamp_eq_elim] using eq_of_resolveLimit (eq_ok_of_resolveBounds h).1
  offset := by
    intro hs
    rw [resolve_of_no_page hs] at h
    exact eq_of_resolveOffset (eq_ok_of_resolveBounds h).2

/-- A request for a page is resolved without a look at its limit and its offset. -/
theorem resolve_page_only {s : PageSpec} (hpage : s.page ≠ none) (hsize : s.pageSize ≠ none) (limit offset : Option Int) :
    { s with limit, offset }.resolve strict bound = s.resolve strict bound := by
  obtain ⟨page, hpage⟩ := Option.ne_none_iff_exists'.1 hpage
  obtain ⟨size, hsize⟩ := Option.ne_none_iff_exists'.1 hsize
  rw [resolve_of_page hpage hsize]
  exact resolve_of_page hpage hsize

/-! ## Lenient mode -/

/-- The amounts that a window is given by. -/
def amounts (s : PageSpec) : List Int :=
  s.page.toList ++ s.pageSize.toList ++ s.offset.toList ++ s.limit.toList

/-- The message of a fault is made up in lenient mode too: passing over takes amounts that can be written. -/
theorem rejectIf_lenient {fault : PageFault} (h : Value.allWritable fault.shown = true) :
    rejectIf false fault = .ok () := by
  simp [rejectIf, checkWritable, h]

theorem resolveLimit_lenient (bound : Option Int) {n? : Option Int}
    (h : ∀ n ∈ n?, (Value.int n).isWritable = true) : ∃ m?, resolveLimit false bound n? = .ok m? := by
  cases n? with
  | none => exact ⟨none, rfl⟩
  | some n =>
    have hshown : Value.allWritable (PageFault.requestedLimit n).shown = true := by
      simp [PageFault.shown, Value.allWritable, h n rfl]
    simp only [resolveLimit, rejectIf_lenient hshown, ok_bind]
    split <;> exact ⟨_, rfl⟩

theorem resolveOffset_lenient {n? : Option Int} (h : ∀ n ∈ n?, (Value.int n).isWritable = true) :
    ∃ m?, resolveOffset false n? = .ok m? := by
  cases n? with
  | none => exact ⟨none, rfl⟩
  | some n =>
    have hshown : Value.allWritable (PageFault.requestedOffset n).shown = true := by
      simp [PageFault.shown, Value.allWritable, h n rfl]
    simp only [resolveOffset, rejectIf_lenient hshown, ok_bind]
    split <;> exact ⟨_, rfl⟩

/-- A window whose amounts can be written is always resolved in lenient mode. -/
theorem resolve_lenient (bound : Option Int) {s : PageSpec}
    (h : ∀ n ∈ s.amounts, (Value.int n).isWritable = true) : ∃ b, s.resolve false bound = .ok b := by
  obtain ⟨limit, hlimit⟩ : ∃ n?, resolveLimit false bound s.limit = .ok n? :=
    resolveLimit_lenient bound fun n hn => h n (by simp [amounts, Option.mem_def.1 hn])
  obtain ⟨offset, hoffset⟩ : ∃ n?, resolveOffset false s.offset = .ok n? :=
    resolveOffset_lenient fun n hn => h n (by simp [amounts, Option.mem_def.1 hn])
  unfold resolve
  split
  · rename_i page size hpage hsize
    unfold resolvePage
    split
    · exact ⟨_, rfl⟩
    · have hshown : Value.allWritable (PageFault.requestedPage page size).shown = true := by
        simp [PageFault.shown, Value.allWritable, h page (by simp [amounts, hpage]), h size (by simp [amounts, hsize])]
      rw [rejectIf_lenient hshown]
      exact ⟨_, rfl⟩
  · unfold resolveBounds
    rw [rejectIf_lenient rfl, hlimit, hoffset]
    split <;> exact ⟨_, rfl⟩

end PageSpec

end PagedSelect
