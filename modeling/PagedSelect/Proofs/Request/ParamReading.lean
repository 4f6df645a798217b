import PagedSelect.Proofs.Keyed
import PagedSelect.Proofs.Outcome
import PagedSelect.Request.Params
/-!
# Reading query parameters

Parameters of any kind stand for a request, as long as their numbers can be written: what fits no part of it
is left out, and what is no whole number counts as the default page or size.  There is one exception, an
infinite amount for the page or for the size: the request is refused.
-/

namespace PagedSelect

variable {params : Members}

/-- An amount without end, as a double or as a decimal. -/
def Value.isInfinite : Value → Bool
  | float (.infinity _) | decimal (.infinity _) => true
  | _ => false

namespace ParamRules

/-! ## Order and projection -/

theorem isWritable_param (hparams : Value.membersWritable params = true) (key : String) :
    (param params key).isWritable = true := by
  unfold param
  cases hget : Keyed.get? key params with
  | none => rfl
  | some v => exact isWritable_of_mem hparams (mem_of_get? hget)

theorem sort_succeeds (rules : ParamRules) (hparams : Value.membersWritable params = true) :
    ∃ sort, rules.sort params = .ok sort := by
  have htokens : ∃ sort, rules.sortTokens params = .ok sort := by
    simp only [sortTokens, written_of_isWritable (isWritable_param hparams rules.sortKey)]
    split <;> exact ⟨_, rfl⟩
  unfold sort
  split
  · split
    · exact htokens
    · exact ⟨_, rfl⟩
  · exact htokens

theorem fieldNames_succeeds {v : Value} (hv : v.isWritable = true) : ∃ names, fieldNames v = .ok names := by
  cases v with
  | list items => exact ⟨_, mapM_written hv⟩
  | tuple items => exact ⟨_, mapM_written hv⟩
  | _ => exact ⟨_, rfl⟩

theorem fields_succeeds (rules : ParamRules) (hparams : Value.membersWritable params = true) :
    ∃ fields, rules.fields params = .ok fields := by
  obtain ⟨names, hnames⟩ := fieldNames_succeeds (isWritable_param hparams rules.fieldsKey)
  rw [fields, hnames, ok_bind]
  split <;> exact ⟨_, rfl⟩

/-! ## Page and size -/

/-- Among the values that have no whole number, only infinite ones are told apart from the rest. -/
theorem whole_eq_infinite {v : Value} {spelling : String} (h : v.whole = .error (.infinite spelling)) :
    v.isInfinite = true := by
  have numeral {literal : String} {read : Except Numeral.Fault Int}
      (h : read.mapError (WholeFault.ofNumeral literal) = .error (.infinite spelling)) : False := by
    rcases read with (_ | _) | n <;> cases h
  cases v with
  | float x => cases x with
    | infinity negative => rfl
    | _ => cases h
  | decimal d => cases d with
    | infinity negative => rfl
    | _ => cases h
  | text s => exact (numeral h).elim
  | bytes b => exact (numeral h).elim
  | _ => cases h

theorem wholeParam_of_finite {v : Value} (hv : v.isInfinite = false) (default : Option Int) :
    wholeParam v default = .ok (v.whole.toOption.or default) := by
  unfold wholeParam
  cases hwhole : v.whole with
  | ok n => rfl
  | error fault =>
    cases fault with
    | infinite spelling =>
      rw [whole_eq_infinite hwhole] at hv
      cases hv
    | _ => rfl

theorem wholeParam_of_infinite {v : Value} (hv : v.isInfinite = true) (default : Option Int) :
    ∃ spelling, wholeParam v default = .error (.notWhole (.infinite spelling)) := by
  unfold Value.isInfinite at hv
  split at hv
  · exact ⟨_, rfl⟩
  · exact ⟨_, rfl⟩
  · cases hv

end ParamRules

open ParamRules

/-! ## Requests -/

/-- A request from parameters has the page and the size that they stand for, by default where they have no whole
number, unless one of the two is infinite: then there is no request. -/
theorem QueryRequest.ofParams_reads (rules : ParamRules) (hparams : Value.membersWritable params = true) :
    ((param params rules.pageKey).isInfinite = false → (param params rules.pageSizeKey).isInfinite = false →
      ∃ r, ofParams rules params = .ok r ∧ r.pagination = some {
        page := (param params rules.pageKey).whole.toOption.or rules.defaultPage
        pageSize := (param params rules.pageSizeKey).whole.toOption.or rules.defaultPageSize }) ∧
    ((param params rules.pageKey).isInfinite = true ∨ (param params rules.pageSizeKey).isInfinite = true →
      ∃ spelling, ofParams rules params = .error (.notWhole (.infinite spelling))) := by
  obtain ⟨sort, hsort⟩ := rules.sort_succeeds hparams
  obtain ⟨fields, hfields⟩ := rules.fields_succeeds hparams
  unfold ofParams
  rw [hsort, ok_bind, hfields, ok_bind]
  refine ⟨fun hpage hsize => ?_, fun h => ?_⟩
  · rw [wholeParam_of_finite hpage, ok_bind, wholeParam_of_finite hsize]
    exact ⟨_, rfl, rfl⟩
  · cases hpage : (param params rules.pageKey).isInfinite with
    | true =>
      obtain ⟨spelling, hfault⟩ := wholeParam_of_infinite hpage rules.defaultPage
      rw [hfault]
      exact ⟨spelling, rfl⟩
    | false =>
      have hsize : (param params rules.pageSizeKey).isInfinite = true := by simpa [hpage] using h
      obtain ⟨spelling, hfault⟩ := wholeParam_of_infinite hsize rules.defaultPageSize
      rw [wholeParam_of_finite hpage, ok_bind, hfault]
      exact ⟨spelling, rfl⟩

/-- Parameters that no query string would give. -/
def oddParams : Members :=
  [("page", .float .nan), ("pageSize", .list [.int 3]), ("sort", .list [.text "name"]), ("fields", .tuple [.int 7])]

theorem oddParams_read : ∃ r, QueryRequest.ofParams {} oddParams = .ok r ∧
    r.pagination = some { page := some 1, pageSize := some 10 } :=
  (QueryRequest.ofParams_reads {} (by decide)).1 (by decide) (by decide)

/-- An infinite page does not count as the default page. -/
theorem infinitePage_refused : Value.membersWritable [("page", .float (.infinity false))] = true ∧
    QueryRequest.ofParams {} [("page", .float (.infinity false))] = .error (.notWhole (.infinite "float infinity")) :=
  ⟨rfl, rfl⟩

end PagedSelect
