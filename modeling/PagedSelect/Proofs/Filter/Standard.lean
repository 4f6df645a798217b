import PagedSelect.Filter.Rules
import PagedSelect.Proofs.Keyed
import PagedSelect.Proofs.Outcome
/-!
# The built-in operators in their registry

Each operator stands under its name, in the order of precedence; what a condition is recognised by
are names of operators that are keys of the condition.
-/

namespace PagedSelect

/-! ## The registry -/

theorem standard_entries : Registry.standard.entries = Operator.all.map fun op => (op.name, op.strategy) := rfl

theorem standard_get? (op : Operator) : Registry.standard.get? op.name = some op.strategy := by
  cases op <;> rfl

theorem Operator.mem_all (op : Operator) : op ∈ Operator.all := by
  cases op <;> decide

theorem Operator.name_injective {a b : Operator} (h : a.name = b.name) : a = b := by
  have find (op : Operator) : Operator.all.find? (fun o => o.name == op.name) = some op := by
    cases op <;> rfl
  have ha := find a
  rw [h, find b] at ha
  exact (Option.some.inj ha).symm

theorem standard_has {name : String} :
    Registry.standard.has name = true ↔ ∃ op : Operator, op.name = name := by
  rw [Registry.has, standard_entries, has_iff_mem_keys]
  simp [Keyed.keys, Operator.mem_all]

/-- What a condition is recognised by is an operator with a value. -/
theorem of_mem_recognized {condition : Members} {name : String}
    (h : name ∈ Registry.standard.recognized condition) :
    ∃ (op : Operator) (value : Value), name = op.name ∧ Keyed.get? op.name condition = some value := by
  obtain ⟨hname, hkey⟩ := List.mem_filter.1 h
  have hhas : Registry.standard.has name = true := has_iff_mem_keys.2 hname
  obtain ⟨op, rfl⟩ := standard_has.1 hhas
  rw [← isSome_get?, Option.isSome_iff_exists] at hkey
  obtain ⟨value, hvalue⟩ := hkey
  exact ⟨op, value, rfl, hvalue⟩

/-- The rules for filters by the built-in operators. -/
abbrev standardRules (strict : Bool) : FilterRules := ⟨Registry.standard, strict⟩

/-! ## Two bounds -/

theorem applyBetween_pair {v : Value} (h : (v.sequence?.getD []).length = 2) :
    ∃ low high, ∀ (q : SelectQuery) (field : String),
      Operator.applyBetween q field v = q.between field low high := by
  cases hs : v.sequence? with
  | none => simp [hs] at h
  | some items =>
    rw [hs, Option.getD_some] at h
    rcases items with _ | ⟨low, _ | ⟨high, _ | ⟨_, _⟩⟩⟩
    · cases h
    · cases h
    · exact ⟨low, high, fun q field => by rw [Operator.applyBetween, hs]⟩
    · simp at h

theorem applyBetween_refused {v : Value} (h : (v.sequence?.getD []).length ≠ 2) (q : SelectQuery)
    (field : String) : Operator.applyBetween q field v = Operator.refuse field .notPair := by
  unfold Operator.applyBetween
  split
  · rename_i hs
    simp [hs] at h
  · rfl

end PagedSelect
