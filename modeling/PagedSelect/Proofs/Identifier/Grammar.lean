import PagedSelect.Proofs.Identifier
import PagedSelect.Proofs.Outcome
/-!
# The grammar of identifiers

`Dotted` is the grammar of names: segments with single dots between them, each a letter followed by
letters and digits, all of them ASCII.  What is let through as an identifier is a name of this grammar,
or such a name with one line feed behind it.
-/

namespace PagedSelect.Identifier

variable {c : Char} {cs : List Char} {s : String}

/-- An ASCII letter or an underscore. -/
def IsLetter (c : Char) : Prop := ('A' ≤ c ∧ c ≤ 'Z') ∨ ('a' ≤ c ∧ c ≤ 'z') ∨ c = '_'

/-- An ASCII digit. -/
def IsDigit (c : Char) : Prop := '0' ≤ c ∧ c ≤ '9'

/-- A letter, then letters and digits. -/
inductive Segment : List Char → Prop
  | letter {c : Char} {r : List Char} (hc : IsLetter c) (hr : ∀ d ∈ r, IsLetter d ∨ IsDigit d) : Segment (c :: r)

/-- Segments with single dots between them. -/
inductive Dotted : List Char → Prop
  | segment {cs : List Char} (h : Segment cs) : Dotted cs
  | dot {cs r : List Char} (h : Segment cs) (hr : Dotted r) : Dotted (cs ++ '.' :: r)

/-- A text that is, in full, a name of the grammar. -/
def IsName (s : String) : Prop := Dotted s.toList

/-- A character that a name may hold. -/
def IsNameChar (c : Char) : Prop := IsLetter c ∨ IsDigit c ∨ c = '.'

/-- A name, or a name with one line feed behind it. -/
def LetThrough (s : String) : Prop := ∃ t, IsName t ∧ (s = t ∨ s = t ++ "\n")

/-! ## The characters -/

theorem isStart_iff : isStart c = true ↔ IsLetter c := by
  have hupper : c.isUpper = true ↔ 'A' ≤ c ∧ c ≤ 'Z' := decide_eq_true_iff
  have hlower : c.isLower = true ↔ 'a' ≤ c ∧ c ≤ 'z' := by
    change (decide ('a' ≤ c) && decide (c ≤ 'z')) = true ↔ _
    rw [Bool.and_eq_true, decide_eq_true_eq, decide_eq_true_eq]
  change (c.isUpper || c.isLower || c == '_') = true ↔ _
  simp only [Bool.or_eq_true, hupper, hlower, beq_iff_eq, IsLetter, or_assoc]

theorem isPart_iff : isPart c = true ↔ IsLetter c ∨ IsDigit c := by
  simp [isPart, isStart_iff, IsDigit, Char.isDigit, Char.le_def]

theorem Segment.chars (h : Segment cs) : ∀ c ∈ cs, IsLetter c ∨ IsDigit c := by
  cases h with
  | letter hc hr =>
    intro c hmem
    rcases List.mem_cons.1 hmem with rfl | hmem
    · exact .inl hc
    · exact hr c hmem

theorem Dotted.chars (h : Dotted cs) : ∀ c ∈ cs, IsNameChar c := by
  induction h with
  | segment h => exact fun c hc => (h.chars c hc).imp id .inl
  | dot h _ ih =>
    intro c hc
    rcases List.mem_append.1 hc with hc | hc
    · exact (h.chars c hc).imp id .inl
    · rcases List.mem_cons.1 hc with rfl | hc
      · exact .inr (.inr rfl)
      · exact ih c hc

theorem Segment.dot_not_mem (h : Segment cs) : '.' ∉ cs := by
  intro hdot
  rcases h.chars '.' hdot with hc | hc
  · revert hc; simp [IsLetter]
  · revert hc; simp [IsDigit]

/-! ## The recogniser -/

theorem isSegment_iff : isSegment cs = true ↔ Segment cs := by
  cases cs with
  | nil => exact iff_of_false (by simp [isSegment]) (fun h => nomatch h)
  | cons c r =>
    simp only [isSegment, Bool.and_eq_true, List.all_eq_true, isStart_iff, isPart_iff]
    constructor
    · rintro ⟨hc, hr⟩
      exact .letter hc hr
    · rintro ⟨hc, hr⟩
      exact ⟨hc, hr⟩

/-- A name is its segments, joined. -/
theorem Dotted.segments (h : Dotted cs) :
    ∃ segments, segments ≠ [] ∧ (∀ s ∈ segments, Segment s) ∧ cs = ['.'].intercalate segments := by
  induction h with
  | @segment cs h => exact ⟨[cs], by simp, by simpa using h, by simp⟩
  | @dot cs r h _ ih =>
    obtain ⟨segments, hne, hall, hr⟩ := ih
    refine ⟨cs :: segments, by simp, ?_, ?_⟩
    · intro s hs
      rcases List.mem_cons.1 hs with rfl | hs
      · exact h
      · exact hall s hs
    · obtain ⟨s, rest, rfl⟩ := List.exists_cons_of_ne_nil hne
      rw [List.intercalate_cons_cons, hr]
      simp

theorem dotted_intercalate {segments : List (List Char)} (hne : segments ≠ []) (hall : ∀ s ∈ segments, Segment s) :
    Dotted (['.'].intercalate segments) := by
  induction segments with
  | nil => exact absurd rfl hne
  | cons s r ih =>
    have hs : Segment s := hall s (by simp)
    cases r with
    | nil => simpa using Dotted.segment hs
    | cons s' r =>
      have hr : Dotted (['.'].intercalate (s' :: r)) := ih (by simp) (fun x hx => hall x (by simp [hx]))
      rw [List.intercalate_cons_cons, List.append_assoc]
      exact .dot hs hr

/-- The recogniser cuts at the dots, and so recognises the grammar. -/
theorem isDotted_iff : isDotted cs = true ↔ Dotted cs := by
  constructor
  · intro h
    have hcs : ['.'].intercalate (cs.splitOn '.') = cs := List.intercalate_splitOn '.'
    rw [← hcs]
    refine dotted_intercalate (fun hnil => ?_) fun s hs => isSegment_iff.1 (List.all_eq_true.1 h s hs)
    rw [hnil] at hcs
    exact ne_nil_of_isDotted h hcs.symm
  · intro h
    obtain ⟨segments, hne, hall, rfl⟩ := h.segments
    have hcut : (['.'].intercalate segments).splitOn '.' = segments :=
      List.splitOn_intercalate '.' (fun s hs => (hall s hs).dot_not_mem) hne
    rw [isDotted, hcut, List.all_eq_true]
    exact fun s hs => isSegment_iff.2 (hall s hs)

/-- What is let through: a name, or a name and a line feed. -/
theorem accepts_iff : accepts s = true ↔ LetThrough s := by
  simp only [accepts, Bool.or_eq_true, Bool.and_eq_true, beq_iff_eq, isDotted_iff, LetThrough, IsName]
  constructor
  · rintro (h | ⟨hlast, h⟩)
    · exact ⟨s, h, .inl rfl⟩
    · obtain ⟨u, hu⟩ := List.getLast?_eq_some_iff.1 hlast
      rw [hu, List.dropLast_concat] at h
      refine ⟨String.ofList u, by simpa using h, .inr ?_⟩
      rw [← String.toList_inj]
      simpa using hu
  · rintro ⟨t, ht, rfl | rfl⟩
    · exact .inl ht
    · exact .inr (by simpa using ht)

theorem LetThrough.chars (h : LetThrough s) :
    ∃ t, (∀ c ∈ t.toList, IsNameChar c) ∧ (s = t ∨ s = t ++ "\n") := by
  obtain ⟨t, ht, hs⟩ := h
  exact ⟨t, ht.chars, hs⟩

/-! ## The check -/

/-- What is not let through is refused as a field, under the text that it stands for, if it has one. -/
theorem ofValue_refused {v : Value} (h : ¬ ∃ s, v = .text s ∧ LetThrough s) :
    ofValue v = (do reject (.badField (← v.written) none)) := by
  cases v with
  | text s =>
    have hs : ¬ accepts s = true := fun hs => h ⟨s, rfl, accepts_iff.1 hs⟩
    rw [written_text, ok_bind, ofValue, check, if_neg hs]
  | _ => rfl

end PagedSelect.Identifier
