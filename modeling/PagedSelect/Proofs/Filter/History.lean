import Mathlib.Data.List.Induction
import Mathlib.Logic.ExistsUnique
import PagedSelect.Proofs.Filter.Registry
/-!
# Histories of a registry

What a registry is after any registrations and removals can be told from their history alone: it lists the
names whose last change registered them, in the order in which they came in, and finds under each the strategy
of that change.  A name that is registered again while it is there keeps its place; one that was taken out
before comes in anew, behind all others.
-/

namespace PagedSelect

/-! ## Histories -/

/-- The name that a change is about. -/
def RegistryChange.name : RegistryChange → String
  | register s => s.name
  | unregister name => name

/-- What a change leaves under its name. -/
def RegistryChange.strategy? : RegistryChange → Option Strategy
  | register s => some s
  | unregister _ => none

namespace Registry

/-- What the last change about a name left under it; none as well if no change is about it.  The oldest change
of a history comes first. -/
def latest? (history : List RegistryChange) (name : String) : Option Strategy :=
  (history.filter (·.name == name)).getLast?.bind RegistryChange.strategy?

/-- The name came in by the change at place `i`: that change registered it when it was absent, and none since
took it out. -/
structure Enters (history : List RegistryChange) (name : String) (i : Nat) : Prop where
  registered : ∃ s, history[i]? = some (.register s) ∧ s.name = name
  absent : latest? (history.take i) name = none
  kept : .unregister name ∉ history.drop i

def EntersBefore (history : List RegistryChange) (name other : String) : Prop :=
  ∀ i j, Enters history name i → Enters history other j → i < j

variable {history : List RegistryChange} {name : String} {i : Nat} {c : RegistryChange} {r : Registry}

theorem latest?_append (history : List RegistryChange) (c : RegistryChange) (name : String) :
    latest? (history ++ [c]) name = if c.name = name then c.strategy? else latest? history name := by
  by_cases h : c.name = name <;> simp [latest?, h]

theorem Enters.lt (h : Enters history name i) : i < history.length := by
  obtain ⟨s, hs, -⟩ := h.registered
  exact (List.getElem?_eq_some_iff.1 hs).1

/-- A further change is where a name comes in if it registers the name in its absence; where it came in before
counts on, unless the change takes it out. -/
theorem enters_append : Enters (history ++ [c]) name i ↔
    Enters history name i ∧ c ≠ .unregister name ∨
      i = history.length ∧ (∃ s, c = .register s ∧ s.name = name) ∧ latest? history name = none := by
  constructor
  · rintro ⟨⟨s, hs, hname⟩, habsent, hkept⟩
    by_cases hi : i < history.length
    · rw [List.getElem?_append_left hi] at hs
      rw [List.take_append_of_le_length (Nat.le_of_lt hi)] at habsent
      rw [List.drop_append_of_le_length (Nat.le_of_lt hi), List.mem_append, not_or, List.mem_singleton] at hkept
      exact .inl ⟨⟨⟨s, hs, hname⟩, habsent, hkept.1⟩, fun hc => hkept.2 hc.symm⟩
    · have hlen : i < (history ++ [c]).length := (List.getElem?_eq_some_iff.1 hs).1
      obtain rfl : i = history.length := by
        rw [List.length_append, List.length_singleton] at hlen
        omega
      rw [List.getElem?_concat_length] at hs
      rw [List.take_left] at habsent
      exact .inr ⟨rfl, ⟨s, Option.some.inj hs, hname⟩, habsent⟩
  · rintro (⟨h, hc⟩ | ⟨rfl, ⟨s, rfl, hname⟩, habsent⟩)
    · obtain ⟨s, hs, hname⟩ := h.registered
      refine ⟨⟨s, by rw [List.getElem?_append_left h.lt, hs], hname⟩, ?_, ?_⟩
      · rw [List.take_append_of_le_length (Nat.le_of_lt h.lt)]
        exact h.absent
      · rw [List.drop_append_of_le_length (Nat.le_of_lt h.lt), List.mem_append, not_or, List.mem_singleton]
        exact ⟨h.kept, hc.symm⟩
    · refine ⟨⟨s, List.getElem?_concat_length, hname⟩, ?_, ?_⟩
      · rw [List.take_left]
        exact habsent
      · rw [List.drop_left]
        simp

/-- A name that came in is there. -/
theorem Enters.present (h : Enters history name i) : latest? history name ≠ none := by
  induction history using List.reverseRecOn generalizing i with
  | nil => exact absurd h.lt (Nat.not_lt_zero i)
  | append_singleton history c ih =>
    rw [latest?_append]
    rcases enters_append.1 h with ⟨h, hc⟩ | ⟨-, ⟨s, rfl, hname⟩, -⟩
    · split
      · rename_i hname
        cases c with
        | register s => simp [RegistryChange.strategy?]
        | unregister other => exact absurd (congrArg RegistryChange.unregister hname) hc
      · exact ih h
    · rw [if_pos (show (RegistryChange.register s).name = name from hname)]
      simp [RegistryChange.strategy?]

/-- A name that is there came in by one change. -/
theorem existsUnique_enters (h : latest? history name ≠ none) : ∃! i, Enters history name i := by
  induction history using List.reverseRecOn with
  | nil => exact absurd rfl h
  | append_singleton history c ih =>
    by_cases hold : latest? history name = none
    · -- The name was absent before, so that the last change has to be its registration.
      rw [latest?_append, hold] at h
      cases c with
      | unregister other => simp [RegistryChange.strategy?] at h
      | register s =>
        have hname : s.name = name := by
          by_contra hne
          exact h (if_neg hne)
        refine ⟨history.length, enters_append.2 (.inr ⟨rfl, ⟨s, rfl, hname⟩, hold⟩), fun i hi => ?_⟩
        rcases enters_append.1 hi with ⟨hi, -⟩ | ⟨hi, -⟩
        · exact absurd hold hi.present
        · exact hi
    · obtain ⟨i, hi, huniq⟩ := ih hold
      have hc : c ≠ .unregister name := by
        rintro rfl
        rw [latest?_append] at h
        exact h (if_pos rfl)
      refine ⟨i, enters_append.2 (.inl ⟨hi, hc⟩), fun j hj => ?_⟩
      rcases enters_append.1 hj with ⟨hj, -⟩ | ⟨-, -, habsent⟩
      · exact huniq j hj
      · exact absurd habsent hold

/-! ## What a history makes of a registry -/

/-- A registry as its history says: no name twice, under each what its last change left, and names before those
that came in later. -/
structure Follows (r : Registry) (history : List RegistryChange) : Prop where
  distinct : r.operators.Nodup
  found : ∀ name, r.get? name = latest? history name
  ordered : r.operators.Pairwise (EntersBefore history)

theorem follows_empty : empty.Follows [] := ⟨List.nodup_nil, fun _ => rfl, .nil⟩

theorem Follows.mem_operators (h : r.Follows history) : name ∈ r.operators ↔ latest? history name ≠ none := by
  rw [← h.found, get?, ne_eq, get?_eq_none, not_not, operators]

theorem get?_change (r : Registry) (c : RegistryChange) (name : String) :
    (r.change c).get? name = if c.name = name then c.strategy? else r.get? name := by
  cases c with
  | register s => exact get?_put s.name name s r.entries
  | unregister other => exact get?_erase other name r.entries

theorem operators_register (r : Registry) (s : Strategy) :
    (r.register s).operators = if s.name ∈ r.operators then r.operators else r.operators ++ [s.name] :=
  keys_put_eq s.name s r.entries

theorem operators_unregister (r : Registry) (name : String) :
    (r.unregister name).operators = r.operators.filter (· != name) :=
  keys_erase name r.entries

/-- One more change makes of a registry what one more entry of its history says. -/
theorem Follows.change (h : r.Follows history) (c : RegistryChange) : (r.change c).Follows (history ++ [c]) where
  distinct := nodup_change h.distinct c
  found name := by rw [get?_change, latest?_append, h.found]
  ordered := by
    have before {name : String} {i : Nat} (hname : name ∈ r.operators) (hi : Enters (history ++ [c]) name i) :
        Enters history name i := by
      rcases enters_append.1 hi with ⟨hi, -⟩ | ⟨-, -, habsent⟩
      · exact hi
      · exact absurd habsent (h.mem_operators.1 hname)
    have hold : r.operators.Pairwise (EntersBefore (history ++ [c])) :=
      h.ordered.imp_of_mem fun ha hb hab i j hi hj => hab i j (before ha hi) (before hb hj)
    cases c with
    | unregister name =>
      rw [Registry.change, operators_unregister]
      exact hold.filter _
    | register s =>
      rw [Registry.change, operators_register]
      split
      · exact hold
      · rename_i hnew
        refine List.pairwise_append.2 ⟨hold, List.pairwise_singleton _ _, fun a ha b hb i j hi hj => ?_⟩
        obtain rfl := List.mem_singleton.1 hb
        -- The new name comes in by the last change, all others came in before it.
        rcases enters_append.1 hj with ⟨hj, -⟩ | ⟨rfl, -⟩
        · exact absurd (h.mem_operators.2 hj.present) hnew
        · exact (before ha hi).lt

/-- A registry follows its history, however long it gets. -/
theorem Follows.changeAll (h : r.Follows history) (changes : List RegistryChange) :
    (r.changeAll changes).Follows (history ++ changes) := by
  induction changes generalizing r history with
  | nil =>
    rw [List.append_nil]
    exact h
  | cons c cs ih =>
    rw [List.append_cons]
    exact ih (h.change c)

/-- A name that is taken out and registered again goes to the end. -/
theorem operators_unregister_register (r : Registry) (s : Strategy) :
    ((r.unregister s.name).register s).operators = r.operators.filter (· != s.name) ++ [s.name] := by
  rw [operators_register, operators_unregister, if_neg (by simp)]

end Registry

/-! ## From the start -/

/-- What a caller starts from: no operator, or the built-in ones. -/
inductive RegistryStart where
  | bare
  | builtIn

namespace RegistryStart

def registry : RegistryStart → Registry
  | bare => .empty
  | builtIn => .standard

/-- The registrations that make it. -/
def history : RegistryStart → List RegistryChange
  | bare => []
  | builtIn => Operator.all.map fun op => .register op.strategy

theorem follows (start : RegistryStart) : start.registry.Follows start.history := by
  cases start with
  | bare => exact Registry.follows_empty
  | builtIn =>
    have hmade : Registry.standard = Registry.empty.changeAll builtIn.history := by
      rw [Registry.standard, Registry.changeAll, history, List.foldl_map]
      rfl
    rw [registry, hmade]
    exact Registry.follows_empty.changeAll builtIn.history

end RegistryStart

/-- The precedence among operators after any changes, told from their history. -/
theorem Registry.precedence_of_history (start : RegistryStart) (changes : List RegistryChange) :
    let r := start.registry.changeAll changes
    let history := start.history ++ changes
    -- No name is listed twice.  Listed are those whose last change registered them, in the order in which they
    -- came in.
    r.operators.Nodup ∧
    (∀ name, name ∈ r.operators ↔ ∃ s, latest? history name = some s) ∧
    (∀ name ∈ r.operators, ∃! i, Enters history name i) ∧
    r.operators.Pairwise (EntersBefore history) ∧
    -- A listed name that is registered again has its new strategy in its old place, or at the end if it is taken
    -- out before.
    (∀ s, s.name ∈ r.operators → (r.register s).operators = r.operators ∧
      ∀ name, (r.register s).get? name = if s.name = name then some s else r.get? name) ∧
    (∀ s, ((r.unregister s.name).register s).operators = r.operators.filter (· != s.name) ++ [s.name]) ∧
    -- What is found under a name is what its last change left.
    (∀ name, r.get? name = latest? history name) ∧
    (∀ name, r.has name = true ↔ name ∈ r.operators) ∧
    -- A condition is recognised by those of its keys that are listed, in their order in the list.
    ∀ condition, (r.recognized condition).Sublist r.operators ∧
      ∀ name, name ∈ r.recognized condition ↔ name ∈ r.operators ∧ name ∈ Keyed.keys condition := by
  intro r history
  have h : r.Follows history := start.follows.changeAll changes
  refine ⟨h.distinct, ?listed, ?entered, h.ordered, ?again, operators_unregister_register r, h.found,
    fun _ => has_iff_mem_keys, fun condition => ⟨List.filter_sublist, ?recognized⟩⟩
  case listed =>
    intro name
    rw [h.mem_operators, Option.ne_none_iff_exists']
  case entered =>
    intro name hname
    exact existsUnique_enters (h.mem_operators.1 hname)
  case again =>
    intro s hs
    exact ⟨by rw [operators_register, if_pos hs], get?_change r (.register s)⟩
  case recognized =>
    intro name
    rw [mem_recognized, Registry.has, has_iff_mem_keys, operators]

/-- Equality is registered again in its place, and the search at the end after it was taken out. -/
example :
    (RegistryStart.builtIn.registry.changeAll
      [.unregister "search", .register (.startsWith "eq"), .register (.refusing "search")]).operators
      = ["eq", "ne", "gt", "gte", "lt", "lte", "in", "between", "like", "isNull", "search"] := by
  decide

end PagedSelect
