import PagedSelect.Proofs.Engine.Steps
import PagedSelect.Proofs.Identifier.Grammar
/-!
# Names in a statement

A statement is made of keywords, parameters and the names of its query: a table, columns or a count
label, the fields of predicates and of order terms.  Whatever is built, every name that a step adds is
a name of the grammar of identifiers, up to a line feed at its end.
-/

namespace PagedSelect

open Identifier

variable {A : Quantity → Prop} {q q' : SelectQuery}

/-- The names that a projection writes. -/
def Projection.names : Projection → List String
  | columns names => names
  | count label => [label]

/-- The fields of an order term. -/
def OrderTerm.fields : OrderTerm → List String
  | column field _ => [field]
  | given _ => []

/-- All names of a query. -/
def SelectQuery.names (q : SelectQuery) : List String :=
  q.table :: (q.projection.names ++ q.predicates.flatMap Predicate.fields ++ q.ordering.flatMap OrderTerm.fields)

namespace SelectQuery

theorem mem_names {name : String} : name ∈ q.names ↔ name = q.table ∨ name ∈ q.projection.names ∨
    (∃ p ∈ q.predicates, name ∈ p.fields) ∨ ∃ t ∈ q.ordering, name ∈ t.fields := by
  simp [names]

end SelectQuery

/-! ## Well-formed parts -/

theorem Predicate.WellFormed.fields {p : Predicate} (h : p.WellFormed) {name : String} (hname : name ∈ p.fields) :
    accepts name = true := by
  cases p with
  | membership field ns => rw [List.mem_singleton.1 hname]; exact h.1
  | anyLike fields n => exact h.2 name hname
  | given text => exact absurd h id
  | _ => rw [List.mem_singleton.1 hname]; exact h

theorem OrderTerm.WellFormed.fields {t : OrderTerm} (h : t.WellFormed) {name : String} (hname : name ∈ t.fields) :
    accepts name = true := by
  cases t with
  | column field direction => rw [List.mem_singleton.1 hname]; exact h
  | given text => exact absurd h id

theorem Projection.WellFormed.names {p : Projection} (h : p.WellFormed) {name : String} (hname : name ∈ p.names) :
    name = "*" ∨ accepts name = true := by
  cases p with
  | columns names => exact h.2 name hname
  | count label => rw [List.mem_singleton.1 hname]; exact .inr h

/-! ## What steps add -/

/-- A name that an effect adds is that of all columns or an identifier. -/
theorem Effect.names (h : Effect A q q') : ∀ name ∈ q'.names, name ∈ q.names ∨ name = "*" ∨ accepts name = true := by
  intro name hname
  rw [SelectQuery.mem_names] at hname ⊢
  cases h with
  | project p hp =>
    rcases hname with hname | hname | hname
    · exact .inl (.inl hname)
    · exact .inr (hp.names hname)
    · exact .inl (.inr (.inr hname))
  | restrict p values hp hn =>
    rcases hname with hname | hname | ⟨p', hp', hname⟩ | hname
    · exact .inl (.inl hname)
    · exact .inl (.inr (.inl hname))
    · rcases List.mem_append.1 hp' with hp' | hp'
      · exact .inl (.inr (.inr (.inl ⟨p', hp', hname⟩)))
      · rw [List.mem_singleton.1 hp'] at hname
        exact .inr (.inr (hp.fields hname))
    · exact .inl (.inr (.inr (.inr hname)))
  | order t ht =>
    rcases hname with hname | hname | hname | ⟨t', ht', hname⟩
    · exact .inl (.inl hname)
    · exact .inl (.inr (.inl hname))
    · exact .inl (.inr (.inr (.inl hname)))
    · rcases List.mem_append.1 ht' with ht' | ht'
      · exact .inl (.inr (.inr (.inr ⟨t', ht', hname⟩)))
      · rw [List.mem_singleton.1 ht'] at hname
        exact .inr (.inr (ht.fields hname))
  | limit n hn hA => exact .inl hname
  | offset n hn hA => exact .inl hname
  | count label hl =>
    -- The order is gone, and the label stands for the columns.
    rcases hname with hname | hname | hname | ⟨t, ht, -⟩
    · exact .inl (.inl hname)
    · rw [List.mem_singleton.1 hname]
      exact .inr (.inr hl)
    · exact .inl (.inr (.inr (.inl hname)))
    · cases ht

theorem Effects.names (h : Effects A q q') : ∀ name ∈ q'.names, name ∈ q.names ∨ name = "*" ∨ accepts name = true := by
  refine Effects.keeps (P := fun q' => ∀ name ∈ q'.names, name ∈ q.names ∨ name = "*" ∨ accepts name = true)
    (fun q₁ q₂ he ih name hname => ?_) h fun name hname => .inl hname
  rcases he.names name hname with hname | hname
  · exact ih name hname
  · exact .inr hname

namespace SelectQuery

/-- A query starts at a table that is an identifier. -/
theorem accepts_of_make {start : SelectStart} (h : make start = .ok q) : accepts q.table = true := by
  obtain ⟨table, htable, h⟩ := bind_eq_ok.1 h
  obtain ⟨-, haccepts⟩ := ofValue_eq_ok.1 htable
  split at h
  · cases h
  · obtain ⟨_, -, h⟩ := bind_eq_ok.1 h
    obtain ⟨_, -, h⟩ := bind_eq_ok.1 h
    split at h
    · cases h
    · cases h
      exact haccepts

/-- A name that clauses add is that of all columns or an identifier. -/
theorem names_of_applyAll {cs : List Clause} (h : q.applyAll cs = .ok q') :
    ∀ name ∈ q'.names, name ∈ q.names ∨ name = "*" ∨ accepts name = true :=
  Effects.names (applyAll_effects (A := anyAmount) (fun c _ => amountsIn_any c) h)

end SelectQuery

/-- The check lets exactly the names of the grammar through, and such names with one line feed behind
them.  All else is refused as a field, as long as it has a text to be refused by.  So the table of a query,
and every name that clauses add to one, consists of letters, digits and dots, up to that line feed. -/
theorem Identifier.check_grammar (v : Value) (start : SelectStart) (q : SelectQuery) (cs : List Clause) :
    (∀ s, ofValue v = .ok s ↔ v = .text s ∧ LetThrough s) ∧
    ((¬ ∃ s, v = .text s ∧ LetThrough s) →
      (v.isWritable = true → ofValue v = reject (.badField v.plain none)) ∧
      (v.isWritable = false → ofValue v = .error .tooLongToWrite)) ∧
    (∀ q₀, SelectQuery.make start = .ok q₀ →
      ∃ t, (∀ c ∈ t.toList, IsNameChar c) ∧ (q₀.table = t ∨ q₀.table = t ++ "\n")) ∧
    ∀ q', q.applyAll cs = .ok q' → ∀ name ∈ q'.names, name ∈ q.names ∨ name = "*" ∨
      ∃ t, (∀ c ∈ t.toList, IsNameChar c) ∧ (name = t ∨ name = t ++ "\n") := by
  refine ⟨fun s => ?_, fun h => ?_, fun q₀ h => ?_, fun q' h name hname => ?_⟩
  · rw [ofValue_eq_ok, accepts_iff]
  · rw [ofValue_refused h]
    refine ⟨fun hw => ?_, fun hw => ?_⟩
    · rw [written_of_isWritable hw, ok_bind]
    · rw [written_of_not_isWritable hw, error_bind]
  · exact (accepts_iff.1 (SelectQuery.accepts_of_make h)).chars
  · rcases SelectQuery.names_of_applyAll h name hname with hname | hname | hname
    · exact .inl hname
    · exact .inr (.inl hname)
    · exact .inr (.inr (accepts_iff.1 hname).chars)

/-- The query for all rows of a table. -/
def appUsers : SelectQuery where
  table := "app.users"
  placeholder := ":"
  projection := .columns ["*"]
  predicates := []
  ordering := []
  limit := none
  offset := none
  bindings := []
  nextParam := 0

/-- A dotted name is let through, one with two dots is refused, and so is a number; the label that steps add
to a query is a name. -/
theorem dottedName_passes : ofValue (.text "app.users") = .ok "app.users" ∧
    ofValue (.text "app..users") = reject (.badField "app..users" none) ∧
    ofValue (.int 7) = reject (.badField "7" none) ∧
    SelectQuery.make { table := .text "app.users" } = .ok appUsers ∧
    ∃ q', appUsers.applyAll [.isMissing "users.age", .counting "n_1"] = .ok q' ∧ "n_1" ∈ q'.names ∧
      ∃ t, (∀ c ∈ t.toList, IsNameChar c) ∧ ("n_1" = t ∨ "n_1" = t ++ "\n") := by
  have grammar (v : Value) := check_grammar v { table := .text "app.users" } appUsers
    [.isMissing "users.age", .counting "n_1"]
  have hq' : appUsers.applyAll [.isMissing "users.age", .counting "n_1"] = .ok _ := rfl
  refine ⟨((grammar _).1 _).2 ⟨rfl, accepts_iff.1 (by decide)⟩, ((grammar _).2.1 ?_).1 rfl,
    ((grammar _).2.1 ?_).1 rfl, rfl, _, hq', by decide, ?_⟩
  · rintro ⟨s, hs, h⟩
    cases hs
    exact absurd (accepts_iff.2 h) (by decide)
  · rintro ⟨s, hs, -⟩
    cases hs
  · rcases (grammar .null).2.2.2 _ hq' "n_1" (by decide) with h | h | h
    · exact absurd h (by decide)
    · exact absurd h (by decide)
    · exact h

/-- A line feed behind a name is let through, although no name holds one, and stands in the statement; and a
number that cannot be written is not refused as a field. -/
theorem lineFeed_passes : ofValue (.text "users\n") = .ok "users\n" ∧ ¬ IsName "users\n" ∧
    (do (← SelectQuery.ofTable "users\n" ":").sql) = .ok "SELECT * FROM users\n" ∧
    ofValue (.int (Int.pow 10 4300)) = .error .tooLongToWrite := by
  refine ⟨rfl, fun h => ?_, rfl, ?_⟩
  · have hbreak : IsNameChar '\n' := h.chars '\n' (by decide)
    simp [IsNameChar, IsLetter, IsDigit] at hbreak
  · have hlong : (Value.int (Int.pow 10 4300)).isWritable = false := by decide +kernel
    have hnone : ¬ ∃ s, Value.int (Int.pow 10 4300) = .text s ∧ LetThrough s := by
      rintro ⟨s, hs, -⟩
      cases hs
    rw [ofValue_refused hnone, written_of_not_isWritable hlong, error_bind]

end PagedSelect
