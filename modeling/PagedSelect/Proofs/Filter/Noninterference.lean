import PagedSelect.Proofs.Filter.Registry
import PagedSelect.Proofs.Select.Blank
/-!
# Values of filters do not show

Two conditions that differ in values only add predicates that read the same.  Of a value an operator
may ask its form: how many items it has, whether it is null, whether its text is void, and whether
it has a text at all.
-/

namespace PagedSelect

variable {S : Value → Value → Prop} {q q' : SelectQuery} {w : Option Whitelist}

/-- What two values under an operator have in common; `S` is what two values have in common that an
operator turns into texts. -/
def Operator.Agrees (S : Value → Value → Prop) : Operator → Value → Value → Prop
  | isIn, v, v' => v.sequence?.map List.length = v'.sequence?.map List.length
  | between, v, v' => (v.sequence?.getD []).length = 2 ↔ (v'.sequence?.getD []).length = 2
  | like, v, v' => v.isNull = v'.isNull ∧ S v v'
  | search, v, v' => v.isNull = v'.isNull ∧ Text.isVoid v.plain = Text.isVoid v'.plain ∧ S v v'
  | isNull, v, v' => v = v'
  | _, _, _ => True

/-- Two members of conditions that differ in their values only; modifiers do not differ. -/
structure EntryAgrees (S : Value → Value → Prop) (m m' : String × Value) : Prop where
  key : m.1 = m'.1
  operator : ∀ op : Operator, op.name = m.1 → op.Agrees S m.2 m'.2
  modifier : m.1 ∈ FilterRules.modifiers → m.2 = m'.2

/-- Two conditions that differ in values only: no maps, or maps with the same keys in order. -/
inductive ConditionAgrees (S : Value → Value → Prop) : Value → Value → Prop
  | scalar {v v' : Value} (h : ∀ c, v ≠ .map c) (h' : ∀ c, v' ≠ .map c) : ConditionAgrees S v v'
  | map {c c' : Members} (h : List.Forall₂ (EntryAgrees S) c c') : ConditionAgrees S (.map c) (.map c')

/-- Two filters that differ in values only. -/
def FilterAgrees (S : Value → Value → Prop) (f f' : String × Value) : Prop :=
  f.1 = f'.1 ∧ ConditionAgrees S f.2 f'.2

/-! ## Conditions as maps -/

theorem keys_agree {c c' : Members} (h : List.Forall₂ (EntryAgrees S) c c') : Keyed.keys c = Keyed.keys c' := by
  induction h with
  | nil => rfl
  | cons hm _ ih =>
    simp only [Keyed.keys, List.map_cons] at ih ⊢
    rw [hm.key, ih]

theorem get?_agree {c c' : Members} (h : List.Forall₂ (EntryAgrees S) c c') (key : String) :
    (Keyed.get? key c = none ∧ Keyed.get? key c' = none) ∨
    ∃ v v', Keyed.get? key c = some v ∧ Keyed.get? key c' = some v' ∧ EntryAgrees S (key, v) (key, v') := by
  induction h with
  | nil => exact .inl ⟨rfl, rfl⟩
  | @cons m m' r r' hm _ ih =>
    rw [Keyed.get?, Keyed.get?, ← hm.key]
    by_cases hk : m.1 == key
    · obtain ⟨k, v⟩ := m
      obtain ⟨k', v'⟩ := m'
      obtain rfl : k = key := beq_iff_eq.1 hk
      obtain rfl : k = k' := hm.key
      exact .inr ⟨v, v', if_pos hk, if_pos hk, hm⟩
    · rw [if_neg hk, if_neg hk]
      exact ih

theorem isExact_agree {c c' : Members} (h : List.Forall₂ (EntryAgrees S) c c') :
    Operator.isExact c = Operator.isExact c' := by
  unfold Operator.isExact
  rcases get?_agree h "exact" with ⟨hc, hc'⟩ | ⟨v, v', hc, hc', hv⟩
  · rw [hc, hc']
  · obtain rfl : v = v' := hv.modifier (List.mem_singleton.2 rfl)
    rw [hc, hc']

/-- Which operator a condition names depends on its keys. -/
theorem operator?_congr (rules : FilterRules) (field : String) {c c' : Members}
    (h : Keyed.keys c = Keyed.keys c') : rules.operator? field c = rules.operator? field c' := by
  have hunknown : rules.unknown c = rules.unknown c' := by
    unfold FilterRules.unknown
    rw [h]
  have hrecognized : rules.registry.recognized c = rules.registry.recognized c' :=
    Registry.recognized_congr fun name => by rw [h]
  unfold FilterRules.operator?
  rw [hunknown, hrecognized]

/-! ## Operators -/

theorem Alike.bind_written {v v' : Value} (hw : v.isWritable = v'.isWritable)
    {f f' : String → Outcome SelectQuery} (hf : Alike (f v.plain) (f' v'.plain)) :
    Alike (v.written >>= f) (v'.written >>= f') := by
  unfold Value.written checkWritable
  simp only [Value.allWritable, Bool.and_true, hw]
  split
  · exact hf
  · exact .refl _

theorem Operator.alike_apply (hS : ∀ v v', S v v' → v.isWritable = v'.isWritable) {op : Operator} {v v' : Value}
    (h : op.Agrees S v v') {c c' : Members} (hc : isExact c = isExact c') (hq : q.blank = q'.blank)
    (strict : Bool) (field : String) :
    Alike (op.apply strict q field v c) (op.apply strict q' field v' c') := by
  cases op with
  | isIn =>
    change Alike (applyIn q field v) (applyIn q' field v')
    change v.sequence?.map List.length = v'.sequence?.map List.length at h
    unfold applyIn
    cases hs : v.sequence? with
    | none =>
      cases hs' : v'.sequence? with
      | none => exact .refused field _ _
      | some items' => simp [hs, hs'] at h
    | some items =>
      cases hs' : v'.sequence? with
      | none => simp [hs, hs'] at h
      | some items' =>
        have hlen : items.length = items'.length := by simpa [hs, hs'] using h
        cases items with
        | nil =>
          rw [List.eq_nil_of_length_eq_zero hlen.symm]
          exact .refused field _ _
        | cons i r =>
          cases items' with
          | nil => cases hlen
          | cons i' r' => exact SelectQuery.alike_isIn hq field hlen
  | between =>
    change Alike (applyBetween q field v) (applyBetween q' field v')
    change (v.sequence?.getD []).length = 2 ↔ (v'.sequence?.getD []).length = 2 at h
    by_cases hpair : (v.sequence?.getD []).length = 2
    · obtain ⟨low, high, happly⟩ := applyBetween_pair hpair
      obtain ⟨low', high', happly'⟩ := applyBetween_pair (h.1 hpair)
      rw [happly, happly']
      exact SelectQuery.alike_between hq field low high low' high'
    · rw [applyBetween_refused hpair, applyBetween_refused (fun hpair' => hpair (h.2 hpair'))]
      exact .refl _
  | like =>
    obtain ⟨hnull, hs⟩ := h
    change Alike (if v.isNull then _ else _) (if v'.isNull then _ else _)
    rw [hnull]
    split
    · exact .refused field _ _
    · exact .bind_written (hS v v' hs) (SelectQuery.alike_compare hq field .like _ _)
  | search =>
    obtain ⟨hnull, hvoid, hs⟩ := h
    change Alike (if v.isNull then _ else _) (if v'.isNull then _ else _)
    rw [hnull]
    split
    · exact .ok hq
    · refine .bind_written (hS v v' hs) ?_
      rw [hc]
      exact SelectQuery.alike_textSearch hq field _ hvoid
  | isNull =>
    obtain rfl : v = v' := h
    change Alike (applyNull strict q field v) (applyNull strict q' field v)
    by_cases hflag : ∃ b, v = .bool b
    · obtain ⟨b, rfl⟩ := hflag
      cases b
      · exact SelectQuery.alike_isPresent hq field
      · exact SelectQuery.alike_isMissing hq field
    · have hnull (q : SelectQuery) : applyNull strict q field v
          = if strict then do
              checkWritable [v]
              refuse field (.notFlag v)
            else q.isPresent field := by
        cases v with
        | bool b => exact absurd ⟨b, rfl⟩ hflag
        | _ => rfl
      rw [hnull, hnull]
      split
      · exact .refl _
      · exact SelectQuery.alike_isPresent hq field
  | _ => exact SelectQuery.alike_compare hq field _ _ _

/-! ## Filters -/

theorem Failure.cases_of_blank {f f' : Failure} (h : f.blank = f'.blank) :
    f = f' ∨ ∃ field fault fault', f = .rejected (.badValue field fault) ∧
      f' = .rejected (.badValue field fault') := by
  unfold Failure.blank at h
  split at h
  · split at h
    · cases h
      exact .inr ⟨_, _, _, rfl, rfl⟩
    · subst h
      exact .inr ⟨_, _, _, rfl, rfl⟩
  · split at h
    · subst h
      exact .inr ⟨_, _, _, rfl, rfl⟩
    · exact .inl h

theorem alike_orSkip (rules : FilterRules) {x x' : Outcome SelectQuery} (hq : q.blank = q'.blank)
    (h : Alike x x') : Alike (rules.orSkip q x) (rules.orSkip q' x') := by
  rcases h.cases with ⟨q₁, q₁', rfl, rfl, h₁⟩ | ⟨f, f', rfl, rfl, hf⟩
  · exact .ok h₁
  · -- A refusal is passed over on both sides or on neither, whatever it says of the value.
    rcases Failure.cases_of_blank hf with rfl | ⟨field, fault, fault', rfl, rfl⟩
    · by_cases hbad : ∃ field fault, f = .rejected (.badValue field fault)
      · obtain ⟨field, fault, rfl⟩ := hbad
        cases rules with
        | mk registry strict =>
          cases strict
          · exact .ok hq
          · exact .refl _
      · have hkeep (q : SelectQuery) : rules.orSkip q (.error f) = .error f := by
          unfold FilterRules.orSkip
          split
          · rename_i field fault he
            exact absurd ⟨field, fault, Except.error.inj he⟩ hbad
          · rfl
        rw [hkeep, hkeep]
        exact .refl _
    · cases rules with
      | mk registry strict =>
        cases strict
        · exact .ok hq
        · exact .refused field fault fault'

/-- Conditions that differ in values only add predicates that read the same, or fail in the same way. -/
theorem alike_applyCondition (hS : ∀ v v', S v v' → v.isWritable = v'.isWritable) (strict : Bool)
    (field : String) (hq : q.blank = q'.blank) {v v' : Value} (h : ConditionAgrees S v v') :
    Alike ((standardRules strict).applyCondition w q field v)
      ((standardRules strict).applyCondition w q' field v') := by
  cases h with
  | scalar hv hv' =>
    have hscalar {v : Value} (hv : ∀ c, v ≠ .map c) (q : SelectQuery) :
        (standardRules strict).applyCondition w q field v
          = (do
              permitted w (·.filter field Operator.eq.name)
              q.equals field v) := by
      cases v with
      | map c => exact absurd rfl (hv c)
      | _ => rfl
    rw [hscalar hv, hscalar hv']
    exact .bind_same _ fun _ => SelectQuery.alike_compare hq field .equal v v'
  | @map c c' hc =>
    -- The keys name the operator; the values come in only when it is applied.
    unfold FilterRules.applyCondition
    dsimp only
    rw [operator?_congr _ field (keys_agree hc)]
    refine .bind_same _ fun name? => ?_
    cases name? with
    | none => exact .ok hq
    | some name =>
      refine .bind_same _ fun _ => ?_
      cases hget : Registry.standard.get? name with
      | none => exact .ok hq
      | some s =>
        have hmem := mem_of_get? hget
        rw [standard_entries] at hmem
        obtain ⟨op, -, hop⟩ := List.mem_map.1 hmem
        cases hop
        rcases get?_agree hc op.name with ⟨hn, hn'⟩ | ⟨v, v', hv, hv', hentry⟩
        · simp only [hn, hn']
          exact .ok hq
        · simp only [hv, hv']
          exact alike_orSkip _ hq
            (Operator.alike_apply hS (hentry.operator op rfl) (isExact_agree hc) hq strict field)

theorem alike_applyFilters (hS : ∀ v v', S v v' → v.isWritable = v'.isWritable) (strict : Bool)
    (hq : q.blank = q'.blank) {filters filters' : Members}
    (h : List.Forall₂ (FilterAgrees S) filters filters') :
    Alike ((standardRules strict).apply w q filters)
      ((standardRules strict).apply w q' filters') := by
  refine Alike.foldlM (fun q q' f f' hq hf => ?_) h hq
  obtain ⟨hfield, hcondition⟩ := hf
  rw [hfield]
  exact alike_applyCondition hS strict f'.1 hq hcondition

end PagedSelect
