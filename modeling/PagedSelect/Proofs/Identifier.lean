import PagedSelect.Identifier
/-!
# Characters of identifiers

What an identifier may hold, and so what it cannot be taken for in a statement.
-/

namespace PagedSelect.Identifier

/-- A character that an identifier may hold: a line feed only at its end. -/
def isChar (c : Char) : Bool := isPart c || c == '.' || c == '\n'

theorem mem_intercalate {sep c : Char} {pieces : List (List Char)} (h : c ∈ [sep].intercalate pieces) :
    c = sep ∨ ∃ p ∈ pieces, c ∈ p := by
  induction pieces with
  | nil => simp at h
  | cons p r ih =>
    cases r with
    | nil => exact .inr ⟨p, by simp, by simpa using h⟩
    | cons p' r =>
      rw [List.intercalate_cons_cons] at h
      simp only [List.append_assoc, List.mem_append, List.mem_singleton] at h
      rcases h with h | h | h
      · exact .inr ⟨p, by simp, h⟩
      · exact .inl h
      · rcases ih h with h | ⟨x, hx, hc⟩
        · exact .inl h
        · exact .inr ⟨x, List.mem_cons_of_mem _ hx, hc⟩

theorem isPart_of_isSegment {cs : List Char} (h : isSegment cs = true) : ∀ c ∈ cs, isPart c = true := by
  cases cs with
  | nil => simp
  | cons d r =>
    simp only [isSegment, Bool.and_eq_true, List.all_eq_true] at h
    intro c hc
    rcases List.mem_cons.1 hc with rfl | hc
    · simp [isPart, h.1]
    · exact h.2 c hc

theorem isPart_of_isDotted {cs : List Char} (h : isDotted cs = true) :
    ∀ c ∈ cs, isPart c = true ∨ c = '.' := by
  intro c hc
  have hcs : ['.'].intercalate (cs.splitOn '.') = cs := List.intercalate_splitOn '.'
  rw [← hcs] at hc
  rcases mem_intercalate hc with hc | ⟨p, hp, hc⟩
  · exact .inr hc
  · exact .inl (isPart_of_isSegment (List.all_eq_true.1 h p hp) c hc)

theorem ne_nil_of_isDotted {cs : List Char} (h : isDotted cs = true) : cs ≠ [] := by
  rintro rfl
  simp [isDotted, isSegment] at h

/-- An identifier is not empty, and holds no other characters than those of names. -/
theorem chars_of_accepts {s : String} (h : accepts s = true) :
    s ≠ "" ∧ ∀ c ∈ s.toList, isChar c = true := by
  simp only [accepts, Bool.or_eq_true, Bool.and_eq_true, beq_iff_eq] at h
  rcases h with h | ⟨hl, h⟩
  · refine ⟨fun he => ne_nil_of_isDotted h (by simp [he]), fun c hc => ?_⟩
    rcases isPart_of_isDotted h c hc with hc | hc <;> simp [isChar, hc]
  · obtain ⟨u, hu⟩ := List.getLast?_eq_some_iff.1 hl
    refine ⟨fun he => by simp [he] at hu, fun c hc => ?_⟩
    rw [hu, List.dropLast_concat] at h
    rw [hu] at hc
    rcases List.mem_append.1 hc with hc | hc
    · rcases isPart_of_isDotted h c hc with hc | hc <;> simp [isChar, hc]
    · simp [isChar, List.mem_singleton.1 hc]

end PagedSelect.Identifier
