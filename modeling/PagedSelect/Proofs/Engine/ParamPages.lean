import PagedSelect.Proofs.Engine.Window
import PagedSelect.Proofs.Request.ParamReading
/-!
# Pages from query parameters

A request from query parameters always names a page and a size: what is no whole number counts as the
default.  A whole number that is not above zero is not replaced, though, and lenient translation passes
over such a page, so that all rows are selected.
-/

namespace PagedSelect

open ParamRules

/-! ## Reading page and size -/

/-- A parameter that reads as a whole number which counts no page and no rows. -/
def ParamRules.ReadsNonPositive (params : Members) (key : String) : Prop :=
  ∃ s n, Keyed.get? key params = some (.text s) ∧ Numeral.ofText s = .ok n ∧ n ≤ 0

/-- The whole number that a parameter stands for, or the default if it is missing or no numeral. -/
def ParamRules.wholeOf (params : Members) (key : String) (default : Int) : Int :=
  match Keyed.get? key params with
  | some (.text s) => (Numeral.ofText s).toOption.getD default
  | _ => default

variable {params : Members} {key : String} {default : Int}

/-- With a default above zero, a number that is not stems from the parameter itself. -/
theorem wholeOf_pos_iff (hdefault : 0 < default) : 0 < wholeOf params key default ↔ ¬ ReadsNonPositive params key := by
  unfold wholeOf ReadsNonPositive
  split
  · rename_i s hs
    cases hn : Numeral.ofText s with
    | error f => simpa [hs, hn, Except.toOption] using hdefault
    | ok n => simp [hs, hn, Except.toOption]
  · rename_i hnot
    refine iff_of_true hdefault ?_
    rintro ⟨s, n, hs, -⟩
    exact hnot s hs

/-- No text is infinite, so that none is refused. -/
theorem wholeParam_text (htexts : ∀ m ∈ params, ∃ s, m.2 = .text s) :
    wholeParam (param params key) (some default) = .ok (some (wholeOf params key default)) := by
  unfold param wholeOf
  cases hget : Keyed.get? key params with
  | none => rfl
  | some v =>
    obtain ⟨s, rfl⟩ := htexts _ (mem_of_get? hget)
    rw [Option.getD_some, wholeParam_of_finite rfl, Value.whole]
    dsimp only
    cases Numeral.ofText s <;> rfl

theorem pagination_ofParams {rules : ParamRules} {r : QueryRequest} (h : QueryRequest.ofParams rules params = .ok r) :
    ∃ page pageSize, wholeParam (param params rules.pageKey) rules.defaultPage = .ok page ∧
      wholeParam (param params rules.pageSizeKey) rules.defaultPageSize = .ok pageSize ∧
      r.pagination = some { page, pageSize } := by
  obtain ⟨sort, -, h⟩ := bind_eq_ok.1 h
  obtain ⟨fields, -, h⟩ := bind_eq_ok.1 h
  obtain ⟨page, hpage, h⟩ := bind_eq_ok.1 h
  obtain ⟨pageSize, hsize, h⟩ := bind_eq_ok.1 h
  cases h
  exact ⟨page, pageSize, hpage, hsize, rfl⟩

/-! ## Windows -/

/-- A query from text parameters, whose defaults are above zero, is a page, with a limit under the bound on
sizes, unless one of the two parameters reads as a whole number that is not above zero; then it has neither
limit nor offset. -/
theorem Translator.window_ofParams (config : EngineConfig) (resolver : TableResolver) (w : Option Whitelist)
    (e : Entity) {rules : ParamRules} (htexts : ∀ m ∈ params, ∃ s, m.2 = .text s) {defaultPage defaultSize : Int}
    (hdefaultPage : rules.defaultPage = some defaultPage) (hdefaultSize : rules.defaultPageSize = some defaultSize)
    (hpage : 0 < defaultPage) (hsize : 0 < defaultSize) {r : QueryRequest} {q : SelectQuery}
    (hr : QueryRequest.ofParams rules params = .ok r)
    (hq : Translator.query { config, resolver } w e r = .ok q) :
    (ReadsNonPositive params rules.pageKey ∨ ReadsNonPositive params rules.pageSizeKey →
      q.limit = none ∧ q.offset = none) ∧
    (¬ ReadsNonPositive params rules.pageKey → ¬ ReadsNonPositive params rules.pageSizeKey →
      ∃ limit offset, q.limit = some (.whole limit) ∧ q.offset = some (.whole offset) ∧
        limit = PageSpec.clamp (wholeOf params rules.pageSizeKey defaultSize) config.maxPageSize ∧
        offset = (wholeOf params rules.pageKey defaultPage - 1) * limit ∧
        0 < limit ∧ (∀ m ∈ config.maxPageSize, limit ≤ m) ∧ 0 ≤ offset) := by
  obtain ⟨page, pageSize, hread, hreadSize, hpagination⟩ := pagination_ofParams hr
  rw [hdefaultPage, wholeParam_text htexts] at hread
  rw [hdefaultSize, wholeParam_text htexts] at hreadSize
  cases hread
  cases hreadSize
  obtain ⟨b, hb, hwithin, hlimit, hoffset⟩ := query_window standard_hasEffects hq
  rw [hpagination] at hb
  change PageSpec.resolvePage config.strict config.maxPageSize _ _ = .ok b at hb
  constructor
  · intro hnonPositive
    have hnot : ¬ (0 < wholeOf params rules.pageKey defaultPage ∧ 0 < wholeOf params rules.pageSizeKey defaultSize) := by
      rintro ⟨hpagePos, hsizePos⟩
      rcases hnonPositive with h | h
      · exact (wholeOf_pos_iff hpage).1 hpagePos h
      · exact (wholeOf_pos_iff hsize).1 hsizePos h
    rw [PageSpec.resolvePage_of_not_pos config.maxPageSize_pos hnot hb] at hlimit hoffset
    exact ⟨hlimit, hoffset⟩
  · intro hpagePos hsizePos
    rw [PageSpec.resolvePage_of_pos config.maxPageSize_pos ((wholeOf_pos_iff hpage).2 hpagePos)
      ((wholeOf_pos_iff hsize).2 hsizePos)] at hb
    cases hb
    exact ⟨_, _, hlimit, hoffset, rfl, rfl, (hwithin.limit _ rfl).1, (hwithin.limit _ rfl).2, hwithin.offset _ rfl⟩

/-- An engine that gives a hundred rows on a page at most. -/
def inHundreds : EngineConfig where
  maxPageSize := some 100
  maxPageSize_pos := by decide

/-- The third page of a query string, with a size that is no numeral. -/
def thirdPage : Members := [("page", .text " ٣ "), ("pageSize", .text "all")]

theorem thirdPage_bounded : ∃ r q, QueryRequest.ofParams {} thirdPage = .ok r ∧
    Translator.query { config := inHundreds } none (.value (.text "users")) r = .ok q ∧
    ∃ limit offset, q.limit = some (.whole limit) ∧ q.offset = some (.whole offset) ∧ 0 < limit ∧ limit ≤ 100 := by
  have htexts : ∀ m ∈ thirdPage, ∃ s, m.2 = .text s := by simp [thirdPage]
  have hr : QueryRequest.ofParams {} thirdPage
      = .ok { pagination := some { page := some 3, pageSize := some 10 } } := by rfl
  have hq : Translator.query { config := inHundreds } none (.value (.text "users"))
      { pagination := some { page := some 3, pageSize := some 10 } } = .ok _ := rfl
  have hpage : ¬ ReadsNonPositive thirdPage "page" := by
    rw [← wholeOf_pos_iff (by decide : (0 : Int) < 1)]
    decide
  have hsize : ¬ ReadsNonPositive thirdPage "pageSize" := by
    rw [← wholeOf_pos_iff (by decide : (0 : Int) < 10)]
    decide
  obtain ⟨limit, offset, hlimit, hoffset, -, -, hpos, hbound, -⟩ :=
    (Translator.window_ofParams inHundreds .named none (.value (.text "users")) htexts rfl rfl (by decide) (by decide)
      hr hq).2 hpage hsize
  exact ⟨_, _, hr, hq, limit, offset, hlimit, hoffset, hpos, hbound 100 rfl⟩

/-- A page zero is a whole number and no page: the query for it selects all rows. -/
theorem pageZero_selects_all : ∃ r q, QueryRequest.ofParams {} [("page", .text "0")] = .ok r ∧
    Translator.query {} none (.value (.text "users")) r = .ok q ∧ q.limit = none ∧ q.offset = none ∧
    q.sql = .ok "SELECT * FROM users" :=
  ⟨_, _, rfl, rfl, rfl, rfl, rfl⟩

end PagedSelect
