import PagedSelect.Identifier
import PagedSelect.Traced
/-!
# Outcomes in sequence

How an operation of several steps succeeds: each step succeeds on what the one before it gave.
-/

namespace PagedSelect

variable {α β : Type}

theorem bind_eq_ok {x : Outcome α} {f : α → Outcome β} {b : β} :
    x >>= f = .ok b ↔ ∃ a, x = .ok a ∧ f a = .ok b := by
  cases x with
  | error e => simp [bind, Except.bind]
  | ok a => simp [bind, Except.bind]

theorem map_eq_ok {ε : Type} {x : Except ε α} {f : α → β} {b : β} :
    x.map f = .ok b ↔ ∃ a, x = .ok a ∧ f a = b := by
  cases x with
  | error e => simp [Except.map]
  | ok a => simp [Except.map]

@[simp] theorem ok_bind (a : α) (f : α → Outcome β) : (Except.ok a : Outcome α) >>= f = f a := rfl

@[simp] theorem error_bind (e : Failure) (f : α → Outcome β) :
    (Except.error e : Outcome α) >>= f = .error e := rfl

@[simp] theorem pure_eq_ok (a : α) : (pure a : Outcome α) = .ok a := rfl

@[simp] theorem reject_ne_ok (r : Rejection) (a : α) : (reject r : Outcome α) ≠ .ok a := by simp [reject]

/-! ## Traced outcomes -/

namespace Traced

variable {ε : Type}

@[simp] theorem silent_ok_bind (a : α) (f : α → Traced ε β) : silent (.ok a) >>= f = f a := by
  change (⟨[] ++ (f a).events, _⟩ : Traced ε β) = _
  rw [List.nil_append]

@[simp] theorem silent_error_bind (e : Failure) (f : α → Traced ε β) :
    silent (.error e) >>= f = ⟨[], .error e⟩ := rfl

/-- What comes behind a traced success. -/
theorem bind_of_ok {t : Traced ε α} {a : α} (h : t.outcome = .ok a) (f : α → Traced ε β) :
    t >>= f = ⟨t.events ++ (f a).events, (f a).outcome⟩ := by
  change t.andThen f = _
  rw [andThen, h]

theorem outcome_bind {t : Traced ε α} {f : α → Traced ε β} {a : α} (h : t.outcome = .ok a) :
    (t >>= f).outcome = (f a).outcome := by
  rw [bind_of_ok h]

end Traced

/-! ## Identifiers -/

theorem Identifier.check_eq_ok {name s : String} :
    Identifier.check name = .ok s ↔ Identifier.accepts name = true ∧ s = name := by
  unfold Identifier.check
  split
  · rename_i h; simp [h, eq_comm]
  · rename_i h; simp [h]

theorem Identifier.check_bind (name : String) (f : String → Outcome β) :
    check name >>= f = if accepts name then f name else reject (.badField name none) := by
  unfold check
  split <;> rfl

theorem Identifier.check_bind_eq_ok {name : String} {f : String → Outcome β} {b : β} :
    Identifier.check name >>= f = .ok b ↔ Identifier.accepts name = true ∧ f name = .ok b := by
  rw [bind_eq_ok]
  constructor
  · rintro ⟨s, hs, h⟩
    obtain ⟨hn, rfl⟩ := Identifier.check_eq_ok.1 hs
    exact ⟨hn, h⟩
  · rintro ⟨hn, h⟩
    exact ⟨name, Identifier.check_eq_ok.2 ⟨hn, rfl⟩, h⟩

theorem Identifier.ofValue_eq_ok {v : Value} {s : String} :
    Identifier.ofValue v = .ok s ↔ v = .text s ∧ Identifier.accepts s = true := by
  cases v with
  | text t =>
    simp only [Identifier.ofValue, Identifier.check_eq_ok, Value.text.injEq]
    constructor
    · rintro ⟨h, rfl⟩; exact ⟨rfl, h⟩
    · rintro ⟨rfl, h⟩; exact ⟨h, rfl⟩
  | _ =>
    refine ⟨fun h => ?_, fun h => nomatch h.1⟩
    obtain ⟨_, _, h⟩ := bind_eq_ok.1 h
    cases h

/-! ## Texts of values -/

theorem written_of_isWritable {v : Value} (h : v.isWritable = true) : v.written = .ok v.plain := by
  simp [Value.written, checkWritable, Value.allWritable, h]

theorem written_of_not_isWritable {v : Value} (h : v.isWritable = false) : v.written = .error .tooLongToWrite := by
  simp [Value.written, checkWritable, Value.allWritable, h]

@[simp] theorem written_text (s : String) : (Value.text s).written = .ok s := written_of_isWritable rfl

theorem isWritable_of_mem {members : Members} {name : String} {v : Value} (h : Value.membersWritable members = true)
    (hmem : (name, v) ∈ members) : v.isWritable = true := by
  induction members with
  | nil => cases hmem
  | cons m r ih =>
    simp only [Value.membersWritable, Bool.and_eq_true] at h
    rcases List.mem_cons.1 hmem with rfl | hmem
    · exact h.1
    · exact ih h.2 hmem

theorem mapM_written {items : List Value} (h : Value.allWritable items = true) :
    items.mapM Value.written = .ok (items.map Value.plain) := by
  induction items with
  | nil => rfl
  | cons v r ih =>
    simp only [Value.allWritable, Bool.and_eq_true] at h
    simp [List.mapM_cons, written_of_isWritable h.1, ih h.2]

/-! ## Checks in sequence -/

theorem forM_eq_ok {items : List α} {check : α → Outcome Unit} :
    items.forM check = .ok () ↔ ∀ a ∈ items, check a = .ok () := by
  induction items with
  | nil => simp [List.forM]
  | cons a r ih =>
    simp only [List.forM, bind_eq_ok, ih, List.mem_cons, forall_eq_or_imp]
    constructor
    · rintro ⟨⟨⟩, ha, hr⟩; exact ⟨ha, hr⟩
    · rintro ⟨ha, hr⟩; exact ⟨(), ha, hr⟩

end PagedSelect
