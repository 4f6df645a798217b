import PagedSelect.Proofs.Filter.Registry
/-!
# Filters in strict mode

Strict translation of filters is lenient translation that rejects what the other passes over:
`IsSkipped` lists the conditions for which the two differ, by their keys and values alone.
-/

namespace PagedSelect

variable {q q' : SelectQuery} {w : Option Whitelist} {field : String} {value : Value} {condition : Members}

/-! ## Values that operators refuse -/

/-- The values that an operator takes in lenient mode only, or not at all: for membership all but lists with an
item, for a range all but lists of two, for a pattern null, and for the test for null all but flags. -/
def Operator.refuses : Operator → Value → Bool
  | isIn, .list (_ :: _) | isIn, .tuple (_ :: _) => false
  | isIn, _ => true
  | between, .list [_, _] | between, .tuple [_, _] => false
  | between, _ => true
  | like, .null => true
  | isNull, .bool _ => false
  | isNull, _ => true
  | _, _ => false

theorem Operator.refuses_isIn : isIn.refuses value = (value.sequence?.getD []).isEmpty := by
  cases value with
  | list items => cases items <;> rfl
  | tuple items => cases items <;> rfl
  | _ => rfl

theorem Operator.refuses_between : between.refuses value = ((value.sequence?.getD []).length != 2) := by
  cases value with
  | list items => rcases items with _ | ⟨_, _ | ⟨_, _ | ⟨_, _⟩⟩⟩ <;> simp [refuses, Value.sequence?]
  | tuple items => rcases items with _ | ⟨_, _ | ⟨_, _ | ⟨_, _⟩⟩⟩ <;> simp [refuses, Value.sequence?]
  | _ => rfl

theorem Operator.refuses_like : like.refuses value = value.isNull := by
  cases value <;> rfl

/-- An outcome that is the refusal of a value. -/
def IsRefusal (result : Outcome SelectQuery) : Prop :=
  ∃ field fault, result = .error (.rejected (.badValue field fault))

theorem not_isRefusal_check {name : String} {f : String → Outcome SelectQuery} (hf : ∀ s, ¬ IsRefusal (f s)) :
    ¬ IsRefusal (Identifier.check name >>= f) := by
  unfold Identifier.check
  split
  · exact hf name
  · rintro ⟨_, _, h⟩
    cases h

theorem not_isRefusal_ok (q : SelectQuery) : ¬ IsRefusal (.ok q) := by
  rintro ⟨_, _, h⟩
  cases h

theorem not_isRefusal_compare (op : Comparison) : ¬ IsRefusal (q.compare field op value) :=
  not_isRefusal_check fun _ => not_isRefusal_ok _

theorem not_isRefusal_written {f : String → Outcome SelectQuery} (hf : ∀ s, ¬ IsRefusal (f s)) :
    ¬ IsRefusal (value.written >>= f) := by
  unfold Value.written checkWritable
  split
  · exact hf _
  · rintro ⟨_, _, h⟩
    cases h

theorem not_isRefusal_textSearch (term : String) (exact : Bool) :
    ¬ IsRefusal (q.textSearch field term exact) := by
  unfold SelectQuery.textSearch
  split
  · exact not_isRefusal_ok q
  · split
    · exact not_isRefusal_compare _
    · exact not_isRefusal_compare _

/-- What an operator does not refuse it takes in either mode, in the same way. -/
theorem Operator.apply_of_not_refuses {op : Operator} (h : op.refuses value = false) (strict : Bool) :
    op.apply strict q field value condition = op.apply false q field value condition ∧
    ¬ IsRefusal (op.apply false q field value condition) := by
  -- Only `isNull` asks for the mode, and only when the value is no flag, which it then refuses.
  cases op with
  | isIn =>
    refine ⟨rfl, ?_⟩
    change ¬ IsRefusal (Operator.applyIn q field value)
    rw [refuses_isIn] at h
    unfold Operator.applyIn
    split
    · rename_i hv
      simp [hv] at h
    · rename_i hv
      simp [hv] at h
    · rename_i items _ _
      cases items with
      | nil => exact not_isRefusal_ok q
      | cons v r => exact not_isRefusal_check fun _ => not_isRefusal_ok _
  | between =>
    obtain ⟨low, high, happly⟩ := applyBetween_pair (v := value) (by simpa [refuses_between] using h)
    refine ⟨rfl, ?_⟩
    change ¬ IsRefusal (Operator.applyBetween q field value)
    rw [happly]
    exact not_isRefusal_check fun _ => not_isRefusal_ok _
  | like =>
    refine ⟨rfl, ?_⟩
    change ¬ IsRefusal (if value.isNull then _ else _)
    rw [refuses_like] at h
    rw [if_neg (by simp [h])]
    exact not_isRefusal_written fun _ => not_isRefusal_compare _
  | search =>
    refine ⟨rfl, ?_⟩
    change ¬ IsRefusal (if value.isNull then _ else _)
    split
    · exact not_isRefusal_ok q
    · exact not_isRefusal_written fun _ => not_isRefusal_textSearch _ _
  | isNull =>
    cases value with
    | bool b => cases b <;> exact ⟨rfl, not_isRefusal_check fun _ => not_isRefusal_ok _⟩
    | _ => simp [refuses] at h
  | _ => exact ⟨rfl, not_isRefusal_compare _⟩

/-- What an operator refuses it does not take in strict mode. -/
theorem Operator.apply_of_refuses {op : Operator} (h : op.refuses value = true) :
    op.apply true q field value condition ≠ .ok q' := by
  intro hq
  cases op with
  | isIn =>
    change Operator.applyIn q field value = _ at hq
    rw [refuses_isIn] at h
    unfold Operator.applyIn at hq
    split at hq
    · cases hq
    · cases hq
    · rename_i items hne hs
      simp only [hs, Option.getD_some, List.isEmpty_iff] at h
      exact hne h
  | between =>
    change Operator.applyBetween q field value = _ at hq
    rw [applyBetween_refused (by simpa [refuses_between] using h)] at hq
    cases hq
  | like =>
    change (if value.isNull then _ else _) = _ at hq
    rw [if_pos (refuses_like.symm.trans h)] at hq
    cases hq
  | isNull =>
    cases value with
    | bool b => simp [refuses] at h
    | _ =>
      obtain ⟨_, -, hq⟩ := bind_eq_ok.1 hq
      cases hq
  | _ => cases h

/-! ## Conditions -/

/-- The one operator that a condition has among its keys. -/
structure Operator.IsOnly (condition : Members) (op : Operator) : Prop where
  isKey : op.name ∈ Keyed.keys condition
  unique : ∀ other : Operator, other.name ∈ Keyed.keys condition → other = op

/-- The conditions that lenient translation passes over or cuts down: with a key that is neither an
operator nor the modifier, without exactly one operator, or with a value that their operator refuses. -/
inductive IsSkipped (condition : Members) : Prop
  | unknown (key : String) (hkey : key ∈ Keyed.keys condition) (hop : ∀ op : Operator, op.name ≠ key)
      (hexact : key ≠ "exact") : IsSkipped condition
  | count (hcount : ¬ ∃ op : Operator, op.IsOnly condition) : IsSkipped condition
  | refused (op : Operator) (value : Value) (hop : op.IsOnly condition)
      (hvalue : Keyed.get? op.name condition = some value) (hrefuses : op.refuses value = true) :
      IsSkipped condition

/-- A condition is recognised by one name alone where this is its only operator, and nowhere else. -/
theorem recognized_eq_singleton {op : Operator} :
    Registry.standard.recognized condition = [op.name] ↔ op.IsOnly condition := by
  have hmem (other : Operator) :
      other.name ∈ Registry.standard.recognized condition ↔ other.name ∈ Keyed.keys condition :=
    Registry.mem_recognized.trans (and_iff_right (standard_has.2 ⟨other, rfl⟩))
  constructor
  · intro h
    refine ⟨(hmem op).1 (h ▸ List.mem_cons_self), fun other hother => ?_⟩
    have hname : other.name ∈ [op.name] := h ▸ (hmem other).2 hother
    exact Operator.name_injective (List.mem_singleton.1 hname)
  · intro h
    have hdistinct : (Registry.standard.recognized condition).Nodup := Registry.wellKept_standard.distinct.filter _
    have hsingle : [op.name].Nodup := by simp
    refine List.perm_singleton.1 ((List.perm_ext_iff_of_nodup hdistinct hsingle).2 fun name => ?_)
    rw [List.mem_singleton]
    constructor
    · intro hname
      obtain ⟨other, -, rfl, -⟩ := of_mem_recognized hname
      rw [h.unique other ((hmem other).1 hname)]
    · rintro rfl
      exact (hmem op).2 h.isKey

/-- A condition has no unknown key if all its keys are operators, apart from the modifier. -/
theorem unknown_eq_nil {strict : Bool} : (standardRules strict).unknown condition = [] ↔
    ∀ key ∈ Keyed.keys condition, (∀ op : Operator, op.name ≠ key) → key = "exact" := by
  have hknown (key : String) : Registry.standard.has key = false ↔ ∀ op : Operator, op.name ≠ key := by
    rw [← Bool.not_eq_true, standard_has, not_exists]
  rw [FilterRules.unknown, List.filter_eq_nil_iff]
  refine forall_congr' fun key => imp_congr_right fun _ => ?_
  rw [← hknown]
  cases Registry.standard.has key <;> simp [FilterRules.modifiers]

/-- The operator that strict translation finds is the one that lenient translation finds. -/
theorem operator?_strict {name? : Option String}
    (h : (standardRules true).operator? field condition = .ok name?) :
    ∃ name, name? = some name ∧ (standardRules true).unknown condition = [] ∧
      Registry.standard.recognized condition = [name] := by
  unfold FilterRules.operator? at h
  rw [if_pos rfl] at h
  split at h
  · cases h
  · rename_i name hu hr
    cases h
    exact ⟨name, rfl, hu, hr⟩
  · cases h

theorem operator?_of_recognized {strict : Bool} {name : String}
    (hu : (standardRules true).unknown condition = [])
    (hr : Registry.standard.recognized condition = [name]) :
    (standardRules strict).operator? field condition = .ok (some name) := by
  have hu' : (standardRules strict).unknown condition = [] := hu
  unfold FilterRules.operator?
  cases strict with
  | true => simp only [if_true, hu', hr]
  | false => simp [hr]

theorem orSkip_strict {r : Registry} (result : Outcome SelectQuery) :
    FilterRules.orSkip ⟨r, true⟩ q result = result := by
  unfold FilterRules.orSkip
  split <;> rfl

theorem orSkip_of_not_isRefusal {strict : Bool} {result : Outcome SelectQuery} (h : ¬ IsRefusal result) :
    (standardRules strict).orSkip q result = result := by
  unfold FilterRules.orSkip
  split
  · exact absurd ⟨_, _, rfl⟩ h
  · rfl

/-- A condition with one operator and no unknown key comes down to its operator. -/
theorem applyCondition_of_recognized {strict : Bool} {op : Operator}
    (hu : (standardRules true).unknown condition = [])
    (hr : Registry.standard.recognized condition = [op.name])
    (hv : Keyed.get? op.name condition = some value) :
    (standardRules strict).applyCondition w q field (.map condition)
      = (do
          permitted w (·.filter field op.name)
          (standardRules strict).orSkip q (op.apply strict q field value condition)) := by
  have hop : (standardRules strict).operator? field condition = .ok (some op.name) :=
    operator?_of_recognized hu hr
  unfold FilterRules.applyCondition
  simp only [hop, ok_bind, standard_get?, hv]
  rfl

theorem applyCondition_map_strict :
    (standardRules true).applyCondition w q field (.map condition) = .ok q' ↔
      (standardRules false).applyCondition w q field (.map condition) = .ok q' ∧ ¬ IsSkipped condition := by
  constructor
  · -- Strict translation names the only operator, which lenient translation then finds too.
    intro h
    obtain ⟨name?, hname, -⟩ := bind_eq_ok.1 h
    obtain ⟨name, rfl, hu, hr⟩ := operator?_strict hname
    obtain ⟨op, value, rfl, hv⟩ := of_mem_recognized (by rw [hr]; exact List.mem_cons_self)
    rw [applyCondition_of_recognized hu hr hv, orSkip_strict] at h
    obtain ⟨_, hpermitted, h⟩ := bind_eq_ok.1 h
    have hrefuses : op.refuses value = false := by
      refine Bool.eq_false_iff.2 fun hrefuses => ?_
      exact Operator.apply_of_refuses hrefuses h
    obtain ⟨hsame, hnot⟩ : op.apply true q field value condition = op.apply false q field value condition ∧
        ¬ IsRefusal (op.apply false q field value condition) := Operator.apply_of_not_refuses hrefuses true
    refine ⟨?_, ?_⟩
    · rw [applyCondition_of_recognized hu hr hv, orSkip_of_not_isRefusal hnot, ← hsame]
      exact bind_eq_ok.2 ⟨_, hpermitted, h⟩
    · rintro (⟨key, hkey, hop, hexact⟩ | hcount | ⟨op', value', hop, hvalue, hrefuses'⟩)
      · exact hexact (unknown_eq_nil.1 hu key hkey hop)
      · exact hcount ⟨op, recognized_eq_singleton.1 hr⟩
      · obtain rfl : op = op' := hop.unique op (recognized_eq_singleton.1 hr).isKey
        rw [Option.some.inj (hv.symm.trans hvalue), hrefuses'] at hrefuses
        cases hrefuses
  · -- A condition that is not skipped has one operator, no unknown key and a value it takes.
    rintro ⟨h, hskip⟩
    have hu : (standardRules true).unknown condition = [] := by
      refine unknown_eq_nil.2 fun key hkey hop => ?_
      by_cases hexact : key = "exact"
      · exact hexact
      · exact absurd (.unknown key hkey hop hexact) hskip
    obtain ⟨op, honly⟩ : ∃ op : Operator, op.IsOnly condition := by
      by_cases hcount : ∃ op : Operator, op.IsOnly condition
      · exact hcount
      · exact absurd (.count hcount) hskip
    have hr : Registry.standard.recognized condition = [op.name] := recognized_eq_singleton.2 honly
    obtain ⟨value, hv⟩ := Option.isSome_iff_exists.1 (isSome_get?.trans (has_iff_mem_keys.2 honly.isKey))
    have hrefuses : op.refuses value = false := by
      refine Bool.eq_false_iff.2 fun hrefuses => ?_
      exact hskip (.refused op value honly hv hrefuses)
    obtain ⟨hsame, hnot⟩ : op.apply true q field value condition = op.apply false q field value condition ∧
        ¬ IsRefusal (op.apply false q field value condition) := Operator.apply_of_not_refuses hrefuses true
    rw [applyCondition_of_recognized hu hr hv, orSkip_of_not_isRefusal hnot] at h
    rw [applyCondition_of_recognized hu hr hv, orSkip_strict, hsame]
    exact h

/-- Strict translation of a condition is lenient translation of one that is not skipped. -/
theorem applyCondition_strict :
    (standardRules true).applyCondition w q field value = .ok q' ↔
      (standardRules false).applyCondition w q field value = .ok q' ∧
        ∀ condition, value = .map condition → ¬ IsSkipped condition := by
  cases value with
  | map condition =>
    rw [applyCondition_map_strict]
    simp
  | _ => exact ⟨fun h => ⟨h, fun _ hv => by cases hv⟩, fun h => h.1⟩

/-- Strict translation of filters is lenient translation of filters of which none is skipped. -/
theorem applyFilters_strict {filters : Members} :
    (standardRules true).apply w q filters = .ok q' ↔
      (standardRules false).apply w q filters = .ok q' ∧
        ∀ field condition, (field, .map condition) ∈ filters → ¬ IsSkipped condition := by
  -- After the first filter both modes go on from one query, but not the one they started with.
  induction filters generalizing q with
  | nil => simp [FilterRules.apply]
  | cons f r ih =>
    unfold FilterRules.apply at ih ⊢
    rw [List.foldlM_cons, List.foldlM_cons, bind_eq_ok, bind_eq_ok]
    constructor
    · rintro ⟨q₁, h₁, h⟩
      obtain ⟨h₁, hf⟩ := applyCondition_strict.1 h₁
      obtain ⟨h, hr⟩ := ih.1 h
      refine ⟨⟨q₁, h₁, h⟩, fun field condition hmem => ?_⟩
      rcases List.mem_cons.1 hmem with rfl | hmem
      · exact hf condition rfl
      · exact hr field condition hmem
    · rintro ⟨⟨q₁, h₁, h⟩, hskip⟩
      refine ⟨q₁, applyCondition_strict.2 ⟨h₁, fun condition hc => ?_⟩,
        ih.2 ⟨h, fun field condition hmem => ?_⟩⟩
      · exact hskip f.1 condition (by rw [← hc]; exact List.mem_cons_self)
      · exact hskip field condition (List.mem_cons_of_mem _ hmem)

end PagedSelect
