import PagedSelect.Page.Metadata
import PagedSelect.Proofs.Number.Rounding
/-!
# How many pages there are

The number of pages goes through a double.  It is exact for as many rows as doubles can count one by
one, at every page size whose inverse is no less than the least double; beyond that it may miss a page,
and a quotient above the doubles is refused.
-/

namespace PagedSelect

open Number

/-- So many pages of a size hold all rows, and one page less does not; no rows need no page. -/
structure IsPageCount (total limit pages : Int) : Prop where
  none_of_zero : total = 0 → pages = 0
  not_fewer : 0 < total → (pages - 1) * limit < total
  enough : total ≤ pages * limit

theorem isPageCount_ceil {total limit : Nat} (hlimit : 0 < limit) :
    IsPageCount total limit ⌈(total / limit : ℚ)⌉ := by
  have hlimit' : (0 : ℚ) < limit := by exact_mod_cast hlimit
  obtain ⟨hlow, hhigh⟩ := Int.ceil_eq_iff.1 (Eq.refl ⌈(total / limit : ℚ)⌉)
  rw [lt_div_iff₀ hlimit'] at hlow
  rw [div_le_iff₀ hlimit'] at hhigh
  refine ⟨fun h => ?_, fun _ => ?_, ?_⟩
  · rw [show total = 0 by exact_mod_cast h]
    simp
  · exact_mod_cast hlow
  · exact_mod_cast hhigh

namespace PageMetadata

/-- The ceiling of a quotient by way of a double. -/
theorem ceilingOfQuotient?_natCast {total limit : Nat} :
    ceilingOfQuotient? total limit = (nearest? total limit).map fun (m, e) => Double.ceiling false m e := by
  have hsign (n : Nat) : decide ((n : Int) < 0) = false := decide_eq_false (by omega)
  rw [ceilingOfQuotient?, hsign, hsign, Int.natAbs_natCast, Int.natAbs_natCast]
  rfl

theorem ceilingOfQuotient?_eq_none {total limit : Nat} (hlimit : 0 < limit) :
    ceilingOfQuotient? total limit = none ↔ overflow * limit ≤ total := by
  rw [ceilingOfQuotient?_natCast, Option.map_eq_none_iff, nearest?_eq_none hlimit]

/-- Not too many rows, on pages that are not too large, are counted by pages exactly. -/
theorem ceilingOfQuotient?_exact {total limit : Int} (htotal : 0 ≤ total) (hlimit : 1 ≤ limit)
    (hcountable : total ≤ twoTo 53) (hsmall : limit < twoTo 1075) :
    ∃ pages, ceilingOfQuotient? total limit = some pages ∧ IsPageCount total limit pages := by
  obtain ⟨total, rfl⟩ := Int.eq_ofNat_of_zero_le htotal
  obtain ⟨limit, rfl⟩ := Int.eq_ofNat_of_zero_le (by omega : 0 ≤ limit)
  have hlimit : 0 < limit := by omega
  have hcountable : total ≤ twoTo 53 := by exact_mod_cast hcountable
  have hsmall : limit < twoTo 1075 := by exact_mod_cast hsmall
  have hfits : ceilingOfQuotient? total limit ≠ none := by
    rw [ne_eq, ceilingOfQuotient?_eq_none hlimit, not_le]
    calc total ≤ twoTo 53 := hcountable
      _ < overflow := by decide +kernel
      _ ≤ overflow * limit := Nat.le_mul_of_pos_right _ hlimit
  obtain ⟨pages, hpages⟩ := Option.ne_none_iff_exists'.1 hfits
  refine ⟨pages, hpages, ?_⟩
  rw [ceilingOfQuotient?_natCast] at hpages
  obtain ⟨⟨m, e⟩, hnearest, rfl⟩ := Option.map_eq_some_iff.1 hpages
  obtain ⟨u, hround⟩ := isRounding_nearest? hlimit hnearest
  dsimp only
  rw [ceiling_eq, hround.ceil_eq hlimit hcountable hsmall]
  exact isPageCount_ceil hlimit

variable {total limit returned : Int} {offset : Option Int}

theorem ofWindow_of_pages (hlimit : 1 ≤ limit) {pages : Int} (h : ceilingOfQuotient? total limit = some pages) :
    ofWindow total (some limit) offset returned = .ok {
      currentPage := some ((offset.getD 0).fdiv limit + 1)
      pageSize := some limit
      totalPages := some pages
      hasMore := offset.getD 0 + returned < total } := by
  rw [ofWindow, if_neg (by omega)]
  dsimp only
  rw [h]

theorem ofWindow_of_none (hlimit : 1 ≤ limit) (h : ceilingOfQuotient? total limit = none) :
    ofWindow total (some limit) offset returned = .error .quotientTooLarge := by
  rw [ofWindow, if_neg (by omega)]
  dsimp only
  rw [h]

/-- A page has no metadata if the number of pages is too large for a double, and in no other case. -/
theorem ofWindow_fails_iff (htotal : 0 ≤ total) (hlimit : 1 ≤ limit) :
    (∃ f, ofWindow total (some limit) offset returned = .error f) ↔ (overflow : Int) * limit ≤ total := by
  obtain ⟨total, rfl⟩ := Int.eq_ofNat_of_zero_le htotal
  obtain ⟨limit, rfl⟩ := Int.eq_ofNat_of_zero_le (by omega : 0 ≤ limit)
  have hover : ceilingOfQuotient? total limit = none ↔ overflow * limit ≤ total :=
    ceilingOfQuotient?_eq_none (by omega)
  rw [show ((overflow : Int) * limit ≤ total) ↔ overflow * limit ≤ total by exact_mod_cast Iff.rfl, ← hover]
  cases hpages : ceilingOfQuotient? total limit with
  | none => exact iff_of_true ⟨_, ofWindow_of_none hlimit hpages⟩ rfl
  | some pages =>
    rw [ofWindow_of_pages hlimit hpages]
    exact iff_of_false (fun ⟨_, h⟩ => by cases h) (by simp)

theorem ofWindow_exact (htotal : 0 ≤ total) (hlimit : 1 ≤ limit) (hcountable : total ≤ twoTo 53)
    (hsmall : limit < twoTo 1075) :
    ∃ m pages, ofWindow total (some limit) offset returned = .ok m ∧ m.totalPages = some pages ∧
      IsPageCount total limit pages := by
  obtain ⟨pages, hpages, hcount⟩ := ceilingOfQuotient?_exact htotal hlimit hcountable hsmall
  exact ⟨_, pages, ofWindow_of_pages hlimit hpages, rfl, hcount⟩

end PageMetadata

end PagedSelect
