import PagedSelect.Proofs.Filter.Registry
import PagedSelect.Proofs.Filter.Strict
import PagedSelect.Proofs.Select.Interleaving
/-!
# Precedence among operators

Which operator a condition is translated by is decided by the registry and not by the order in which the
members of the condition are written.  That order is seen in one place only: of several unknown keys, strict
translation names the first one written.
-/

namespace PagedSelect

variable {r : Registry} {w : Option Whitelist} {q : SelectQuery} {field name : String}
  {condition condition' : Members}

namespace Registry

/-! ## Keys of a condition -/

/-- The operator that goes before all others of a condition: the first registered name among its keys. -/
def IsFirst (r : Registry) (condition : Members) (name : String) : Prop :=
  ∃ before after, r.operators = before ++ name :: after ∧ name ∈ Keyed.keys condition ∧
    ∀ other ∈ before, other ∉ Keyed.keys condition

/-- A key that is neither registered nor the modifier. -/
def IsUnknown (r : Registry) (key : String) : Prop := r.has key = false ∧ key ≠ "exact"

/-- The unknown key that is written first in a condition. -/
def FirstUnknown (r : Registry) (condition : Members) (key : String) : Prop :=
  ∃ before after, Keyed.keys condition = before ++ key :: after ∧ r.IsUnknown key ∧
    ∀ other ∈ before, ¬ r.IsUnknown other

/-- The registered keys of a condition, as they are written. -/
def registered (r : Registry) (condition : Members) : List String := (Keyed.keys condition).filter r.has

theorem recognized_of_perm (h : condition.Perm condition') : r.recognized condition = r.recognized condition' :=
  recognized_congr fun _ => (h.map Prod.fst).mem_iff

/-- The registry and the condition agree on how many operators the condition names. -/
theorem recognized_perm_registered (hr : r.WellKept) (hdistinct : (Keyed.keys condition).Nodup) :
    (r.recognized condition).Perm (r.registered condition) := by
  refine (List.perm_ext_iff_of_nodup (hr.distinct.filter _) (hdistinct.filter _)).2 fun name => ?_
  have hmem : name ∈ r.registered condition ↔ name ∈ Keyed.keys condition ∧ r.has name = true := List.mem_filter
  exact mem_recognized.trans (and_comm.trans hmem.symm)

theorem isFirst_of_recognized {others : List String} (h : r.recognized condition = name :: others) :
    r.IsFirst condition name := by
  obtain ⟨before, after, hsplit, hbefore, hkey, -⟩ := List.filter_eq_cons_iff.1 h
  refine ⟨before, after, hsplit, has_iff_mem_keys.1 hkey, fun other hother hmem => ?_⟩
  exact hbefore other hother (has_iff_mem_keys.2 hmem)

/-- A recognised name leads to a strategy and to a value for it. -/
theorem exists_of_mem_recognized (h : name ∈ r.recognized condition) :
    ∃ s value, r.get? name = some s ∧ Keyed.get? name condition = some value := by
  obtain ⟨hhas, hkey⟩ := mem_recognized.1 h
  obtain ⟨s, hs⟩ := Option.isSome_iff_exists.1 (isSome_get?.trans hhas)
  obtain ⟨value, hvalue⟩ := Option.isSome_iff_exists.1 (isSome_get?.trans (has_iff_mem_keys.2 hkey))
  exact ⟨s, value, hs, hvalue⟩

end Registry

namespace FilterRules

open Registry

/-! ## Unknown keys -/

theorem isUnknown_iff {key : String} :
    (!r.has key && !modifiers.contains key) = true ↔ r.IsUnknown key := by
  simp [IsUnknown, modifiers]

theorem firstUnknown_of_unknown {key : String} {others : List String}
    (h : unknown ⟨r, true⟩ condition = key :: others) : r.FirstUnknown condition key := by
  obtain ⟨before, after, hsplit, hbefore, hkey, -⟩ := List.filter_eq_cons_iff.1 h
  refine ⟨before, after, hsplit, isUnknown_iff.1 hkey, fun other hother hunknown => ?_⟩
  exact hbefore other hother (isUnknown_iff.2 hunknown)

theorem not_isUnknown_of_unknown (h : unknown ⟨r, true⟩ condition = []) :
    ∀ key ∈ Keyed.keys condition, ¬ r.IsUnknown key := fun key hkey hunknown =>
  List.filter_eq_nil_iff.1 h key hkey (isUnknown_iff.2 hunknown)

theorem unknown_perm {rules : FilterRules} (h : condition.Perm condition') :
    (rules.unknown condition).Perm (rules.unknown condition') := by
  have hkeys : (Keyed.keys condition).Perm (Keyed.keys condition') := h.map Prod.fst
  exact hkeys.filter _

/-! ## One condition -/

/-- How lenient translation of a condition ends: it passes over a condition without operators, and otherwise
leaves it to the strategy of the first one, if the whitelist permits. -/
inductive TranslatedLeniently (r : Registry) (w : Option Whitelist) (q : SelectQuery) (field : String)
    (condition : Members) : Outcome SelectQuery → Prop
  | skipped (h : ∀ key ∈ Keyed.keys condition, r.has key = false) :
      TranslatedLeniently r w q field condition (.ok q)
  | first (name : String) (s : Strategy) (value : Value) (hfirst : r.IsFirst condition name)
      (hs : r.get? name = some s) (hvalue : Keyed.get? name condition = some value) :
      TranslatedLeniently r w q field condition (do
        permitted w (·.filter field name)
        orSkip ⟨r, false⟩ q (s.apply false q field value condition))

/-- How strict translation of a condition ends: it names the first unknown key, or counts the operators if there
is not exactly one; a strategy is reached by a condition only that has one operator and nothing else but the
modifier. -/
inductive TranslatedStrictly (r : Registry) (w : Option Whitelist) (q : SelectQuery) (field : String)
    (condition : Members) : Outcome SelectQuery → Prop
  | unknown (key : String) (hkey : r.FirstUnknown condition key) :
      TranslatedStrictly r w q field condition (reject (.unknownOperator key r.operators (some field)))
  | count (hknown : ∀ key ∈ Keyed.keys condition, ¬ r.IsUnknown key)
      (hcount : (r.registered condition).length ≠ 1) :
      TranslatedStrictly r w q field condition
        (reject (.malformed (.operatorCount field (r.registered condition).length)))
  | reached (name : String) (s : Strategy) (value : Value) (hs : r.get? name = some s)
      (hvalue : Keyed.get? name condition = some value)
      (hothers : ∀ key ∈ Keyed.keys condition, key ≠ name → r.has key = false ∧ key = "exact") :
      TranslatedStrictly r w q field condition (do
        permitted w (·.filter field name)
        s.apply true q field value condition)

theorem translatedLeniently (r : Registry) (w : Option Whitelist) (q : SelectQuery) (field : String)
    (condition : Members) :
    TranslatedLeniently r w q field condition (applyCondition ⟨r, false⟩ w q field (.map condition)) := by
  have hoperator : operator? ⟨r, false⟩ field condition = .ok (r.recognized condition).head? := rfl
  rw [applyCondition, hoperator, ok_bind]
  cases hrecognized : r.recognized condition with
  | nil =>
    refine .skipped fun key hkey => Bool.eq_false_iff.2 fun hhas => ?_
    have hmem : key ∈ r.recognized condition := mem_recognized.2 ⟨hhas, hkey⟩
    rw [hrecognized] at hmem
    cases hmem
  | cons name others =>
    have hmem : name ∈ r.recognized condition := hrecognized ▸ List.mem_cons_self
    obtain ⟨s, value, hs, hvalue⟩ := exists_of_mem_recognized hmem
    simp only [List.head?_cons, hs, hvalue]
    exact .first name s value (isFirst_of_recognized hrecognized) hs hvalue

theorem translatedStrictly (hr : r.WellKept) (w : Option Whitelist) (q : SelectQuery) (field : String)
    (hdistinct : (Keyed.keys condition).Nodup) :
    TranslatedStrictly r w q field condition (applyCondition ⟨r, true⟩ w q field (.map condition)) := by
  have hlength := (recognized_perm_registered hr hdistinct).length_eq
  cases hunknown : unknown ⟨r, true⟩ condition with
  | cons key others =>
    have hoperator : operator? ⟨r, true⟩ field condition
        = reject (.unknownOperator key r.operators (some field)) := by
      simp only [operator?, hunknown, if_true]
    rw [applyCondition, hoperator]
    exact .unknown key (firstUnknown_of_unknown hunknown)
  | nil =>
    have hknown := not_isUnknown_of_unknown hunknown
    by_cases hone : ∃ name, r.recognized condition = [name]
    · obtain ⟨name, hrecognized⟩ := hone
      have hoperator : operator? ⟨r, true⟩ field condition = .ok (some name) := by
        simp only [operator?, hunknown, hrecognized, if_true]
      obtain ⟨s, value, hs, hvalue⟩ := exists_of_mem_recognized (hrecognized ▸ List.mem_singleton_self name)
      rw [applyCondition, hoperator, ok_bind]
      simp only [hs, hvalue, orSkip_strict]
      refine .reached name s value hs hvalue fun key hkey hne => ?_
      have hhas : r.has key = false := Bool.eq_false_iff.2 fun hhas => by
        have hmem : key ∈ r.recognized condition := mem_recognized.2 ⟨hhas, hkey⟩
        exact hne (List.mem_singleton.1 (hrecognized ▸ hmem))
      exact ⟨hhas, Decidable.byContradiction fun hexact => hknown key hkey ⟨hhas, hexact⟩⟩
    · have hoperator : operator? ⟨r, true⟩ field condition
          = reject (.malformed (.operatorCount field (r.recognized condition).length)) := by
        simp only [operator?, hunknown, if_true]
        split
        · rename_i heq
          cases heq
        · rename_i heq
          exact absurd ⟨_, heq⟩ hone
        · rfl
      rw [applyCondition, hoperator, hlength]
      refine .count hknown fun hcount => hone (List.length_eq_one_iff.1 (hlength.trans hcount))

/-! ## Conditions in another order -/

/-- A condition in another order is translated alike if it names the same operator. -/
theorem applyCondition_of_operator? {rules : FilterRules} (hr : rules.registry.WellKept)
    (hperm : condition.Perm condition') (hdistinct : (Keyed.keys condition).Nodup)
    (hoperator : rules.operator? field condition' = rules.operator? field condition) :
    rules.applyCondition w q field (.map condition') = rules.applyCondition w q field (.map condition) := by
  rw [applyCondition, applyCondition, hoperator]
  refine congrArg _ (funext fun name? => ?_)
  cases name? with
  | none => rfl
  | some name =>
    refine congrArg (permitted w (·.filter field name) >>= ·) (funext fun _ => ?_)
    rw [← get?_of_perm hperm hdistinct name]
    cases hs : rules.registry.get? name with
    | none => rfl
    | some s =>
      cases Keyed.get? name condition with
      | none => rfl
      | some value =>
        have hsame := hr.readsByKey _ (mem_of_get? hs) rules.strict q field value hperm hdistinct
        exact congrArg (rules.orSkip q) hsame.symm

/-- However the members of a condition are ordered, lenient translation ends alike, by the operator that goes
first in the registry; and strict translation ends alike, or it rejects the condition either way for an unknown
key, for the first one written. -/
theorem applyCondition_reordered {start : Registry} (hstart : start = .empty ∨ start = .standard)
    {changes : List RegistryChange} (hcustom : ∀ s, .register s ∈ changes → s.ReadsByKey) (w : Option Whitelist)
    (q : SelectQuery) (field : String) (hperm : condition.Perm condition')
    (hdistinct : (Keyed.keys condition).Nodup) :
    let r := start.changeAll changes
    let lenient := fun c => applyCondition ⟨r, false⟩ w q field (.map c)
    let strict := fun c => applyCondition ⟨r, true⟩ w q field (.map c)
    (lenient condition' = lenient condition ∧ TranslatedLeniently r w q field condition (lenient condition)) ∧
    (strict condition' = strict condition ∨
      ∃ key key', r.FirstUnknown condition key ∧ r.FirstUnknown condition' key' ∧
        strict condition = reject (.unknownOperator key r.operators (some field)) ∧
        strict condition' = reject (.unknownOperator key' r.operators (some field))) ∧
    TranslatedStrictly r w q field condition (strict condition) := by
  intro r lenient strict
  have hr : r.WellKept := by
    rcases hstart with rfl | rfl
    · exact wellKept_empty.changeAll hcustom
    · exact wellKept_standard.changeAll hcustom
  have hrecognized : r.recognized condition' = r.recognized condition := (recognized_of_perm hperm).symm
  have hunknown : (unknown ⟨r, true⟩ condition).Perm (unknown ⟨r, true⟩ condition') := unknown_perm hperm
  refine ⟨⟨?_, translatedLeniently r w q field condition⟩, ?_, translatedStrictly hr w q field hdistinct⟩
  · refine applyCondition_of_operator? hr hperm hdistinct ?_
    exact congrArg (fun names : List String => Except.ok names.head?) hrecognized
  · cases hkeys : unknown ⟨r, true⟩ condition with
    | nil =>
      left
      have hkeys' : unknown ⟨r, true⟩ condition' = [] := (hkeys ▸ hunknown).nil_eq.symm
      refine applyCondition_of_operator? hr hperm hdistinct ?_
      rw [operator?, operator?, hkeys, hkeys', hrecognized]
    | cons key others =>
      right
      obtain ⟨key', others', hkeys'⟩ : ∃ key' others', unknown ⟨r, true⟩ condition' = key' :: others' :=
        List.exists_cons_of_ne_nil fun hnil => nomatch hkeys ▸ (hnil ▸ hunknown).eq_nil
      refine ⟨key, key', firstUnknown_of_unknown hkeys, firstUnknown_of_unknown hkeys', ?_, ?_⟩
      · simp only [strict, applyCondition, operator?, hkeys, if_true]
        rfl
      · simp only [strict, applyCondition, operator?, hkeys', if_true]
        rfl

/-- The built-in operators without equality, and one more for the start of a text. -/
def fewerOperators : Registry :=
  Registry.standard.changeAll [.unregister "eq", .register (.startsWith "starts")]

/-- A condition with two bounds, and with two keys that are no operators. -/
def twoBounds : Members := [("lt", .int 65), ("eq", .int 30), ("from", .int 0), ("gt", .int 18)]

/-- Backwards, the lower bound is still the one that counts in lenient mode; strict mode names the other unknown
key. -/
theorem applyCondition_twoBounds :
    (∃ q', applyCondition ⟨fewerOperators, false⟩ none SelectQuery.allOrders "age" (.map twoBounds) = .ok q' ∧
      applyCondition ⟨fewerOperators, false⟩ none SelectQuery.allOrders "age" (.map twoBounds.reverse) = .ok q' ∧
      q'.predicateTexts = ["age > :p0"]) ∧
    ∃ key key', fewerOperators.FirstUnknown twoBounds key ∧ fewerOperators.FirstUnknown twoBounds.reverse key' ∧
      key = "eq" ∧ key' = "from" := by
  have hcustom : ∀ s, .register s ∈ [RegistryChange.unregister "eq", .register (.startsWith "starts")] →
      s.ReadsByKey := by
    intro s hs
    obtain rfl : s = .startsWith "starts" := by simpa using hs
    exact Strategy.startsWith_readsByKey "starts"
  obtain ⟨⟨hlenient, -⟩, hstrict, -⟩ := applyCondition_reordered (.inr rfl) hcustom none SelectQuery.allOrders "age"
    (List.reverse_perm twoBounds).symm (by decide)
  refine ⟨⟨_, rfl, hlenient.trans rfl, rfl⟩, ?_⟩
  rcases hstrict with hsame | ⟨key, key', hkey, hkey', hreject, hreject'⟩
  · have hkeys : (reject (.unknownOperator "from" fewerOperators.operators (some "age")) : Outcome SelectQuery)
        = reject (.unknownOperator "eq" fewerOperators.operators (some "age")) := hsame
    simp [reject] at hkeys
  · cases hreject
    cases hreject'
    exact ⟨_, _, hkey, hkey', rfl, rfl⟩

end FilterRules

end PagedSelect
