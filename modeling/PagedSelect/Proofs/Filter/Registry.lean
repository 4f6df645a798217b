import PagedSelect.Proofs.Filter.Standard
/-!
# Registries that are changed

A caller starts from the built-in operators or from none, and registers strategies and takes names out.
Whatever the changes and their order, no name stands in the registry twice, and its strategies find the
members of a condition by their keys, as long as those that a caller registers do.
-/

namespace PagedSelect

/-! ## Strategies -/

/-- A strategy that finds the members of a condition by their keys: as long as these are distinct, their order
makes no difference to it. -/
def Strategy.ReadsByKey (s : Strategy) : Prop :=
  ∀ (strict : Bool) (q : SelectQuery) (field : String) (value : Value) {condition condition' : Members},
    condition.Perm condition' → (Keyed.keys condition).Nodup →
      s.apply strict q field value condition = s.apply strict q field value condition'

/-- Of the whole condition the built-in operators read one modifier. -/
theorem Operator.readsByKey (op : Operator) : op.strategy.ReadsByKey := by
  intro strict q field value condition condition' hperm hdistinct
  have hexact : isExact condition = isExact condition' := by
    unfold isExact
    rw [get?_of_perm hperm hdistinct]
  cases op with
  | search =>
    change (if value.isNull then _ else do q.textSearch field (← value.written) (isExact condition)) = _
    rw [hexact]
    rfl
  | _ => rfl

theorem Strategy.startsWith_readsByKey (name : String) : (startsWith name).ReadsByKey := fun _ _ _ _ _ _ _ _ => rfl

/-! ## Registries -/

namespace Registry

variable {r : Registry} {changes : List RegistryChange}

theorem mem_recognized {condition : Members} {name : String} :
    name ∈ r.recognized condition ↔ r.has name = true ∧ name ∈ Keyed.keys condition := by
  rw [recognized, List.mem_filter, has_iff_mem_keys, Registry.has, has_iff_mem_keys, operators]

/-- Which operators a condition names depends on its keys alone. -/
theorem recognized_congr {condition condition' : Members}
    (h : ∀ name, name ∈ Keyed.keys condition ↔ name ∈ Keyed.keys condition') :
    r.recognized condition = r.recognized condition' := by
  refine List.filter_congr fun name _ => ?_
  rw [Bool.eq_iff_iff, has_iff_mem_keys, has_iff_mem_keys]
  exact h name

/-- A registry in which no name stands twice and every strategy finds members by their keys. -/
structure WellKept (r : Registry) : Prop where
  distinct : r.operators.Nodup
  readsByKey : ∀ e ∈ r.entries, e.2.ReadsByKey

theorem wellKept_empty : empty.WellKept := ⟨List.nodup_nil, nofun⟩

theorem wellKept_standard : standard.WellKept := by
  refine ⟨by decide, fun e he => ?_⟩
  rw [standard_entries] at he
  obtain ⟨op, -, rfl⟩ := List.mem_map.1 he
  exact op.readsByKey

/-- A change brings in no name a second time. -/
theorem nodup_change (h : r.operators.Nodup) (c : RegistryChange) : (r.change c).operators.Nodup := by
  cases c with
  | register s => exact nodup_keys_put s.name s h
  | unregister name => exact nodup_keys_erase name h

/-- A change keeps a registry well. -/
theorem WellKept.change (h : r.WellKept) {c : RegistryChange} (hc : ∀ s, c = .register s → s.ReadsByKey) :
    (r.change c).WellKept := by
  refine ⟨nodup_change h.distinct c, fun e he => ?_⟩
  cases c with
  | register s =>
    rcases eq_or_mem_of_mem_put he with rfl | he
    · exact hc s rfl
    · exact h.readsByKey e he
  | unregister name => exact h.readsByKey e ((List.mem_filter.1 he).1)

/-- A registry after changes, one after another. -/
def changeAll (r : Registry) (changes : List RegistryChange) : Registry := changes.foldl Registry.change r

/-- Changes keep a registry well, however many there are. -/
theorem WellKept.changeAll (h : r.WellKept) (hchanges : ∀ s, .register s ∈ changes → s.ReadsByKey) :
    (r.changeAll changes).WellKept := by
  induction changes generalizing r with
  | nil => exact h
  | cons c cs ih =>
    have hstep : (r.change c).WellKept := h.change fun s hs => hchanges s (hs ▸ List.mem_cons_self)
    exact ih hstep fun s hs => hchanges s (List.mem_cons_of_mem c hs)

end Registry

end PagedSelect
