import PagedSelect.Rejection
/-!
# Texts of rejections

The text of a rejection is its message if there is exactly one, over all paths, and shows the whole report
otherwise.  One cannot be taken for the other: a report shows every message in quotes, so that its text is
longer than each of them.
-/

namespace PagedSelect

/-! ## Lengths of texts -/

namespace Text

theorem escapeCode_ne_nil (n : Nat) : escapeCode n ≠ [] := by
  unfold escapeCode
  split
  · exact List.cons_ne_nil _ _
  · split <;> exact List.cons_ne_nil _ _

theorem escape_ne_nil (mark c : Char) : escape mark c ≠ [] := by
  unfold escape
  split
  · exact List.cons_ne_nil _ _
  · split
    · exact List.cons_ne_nil _ _
    · exact List.cons_ne_nil _ _
    · exact List.cons_ne_nil _ _
    · split
      · exact List.cons_ne_nil _ _
      · exact escapeCode_ne_nil c.toNat

theorem length_le_flatMap {f : Char → List Char} (hf : ∀ c, f c ≠ []) (cs : List Char) :
    cs.length ≤ (cs.flatMap f).length := by
  induction cs with
  | nil => exact Nat.le_refl 0
  | cons c r ih =>
    have hc : 0 < (f c).length := List.length_pos_iff.2 (hf c)
    rw [List.flatMap_cons, List.length_append, List.length_cons]
    omega

/-- A text in quotes is no shorter than the text. -/
theorem length_le_quoted (s : String) : s.length ≤ (quoted s).length := by
  have hbody := length_le_flatMap (escape_ne_nil (quoteMark s.toList)) s.toList
  rw [quoted, String.length_ofList, ← String.length_toList, List.length_append, List.length_cons]
  omega

theorem length_le_intercalate (sep : String) {s : String} {pieces : List String} (h : s ∈ pieces) :
    s.length ≤ (sep.intercalate pieces).length := by
  induction pieces with
  | nil => cases h
  | cons t r ih =>
    cases r with
    | nil =>
      have ht : sep.intercalate [t] = s := by
        rw [String.intercalate_singleton, List.mem_singleton.1 h]
      exact Nat.le_of_eq (congrArg String.length ht.symm)
    | cons u r =>
      rw [String.intercalate_cons_cons, String.length_append, String.length_append]
      rcases List.mem_cons.1 h with rfl | h
      · omega
      · have hr := ih h
        omega

end Text

namespace Value

theorem mem_literals {v : Value} {items : List Value} (h : v ∈ items) : v.literal ∈ literals items := by
  induction items with
  | nil => cases h
  | cons w r ih =>
    rw [literals]
    rcases List.mem_cons.1 h with rfl | h
    · exact List.mem_cons_self
    · exact List.mem_cons_of_mem _ (ih h)

theorem mem_memberLiterals {key : String} {v : Value} {members : Members} (h : (key, v) ∈ members) :
    Text.quoted key ++ ": " ++ v.literal ∈ memberLiterals members := by
  induction members with
  | nil => cases h
  | cons m r ih =>
    rw [memberLiterals]
    rcases List.mem_cons.1 h with rfl | h
    · exact List.mem_cons_self
    · exact List.mem_cons_of_mem _ (ih h)

/-- A list shows its items, and more. -/
theorem length_literal_item {v : Value} {items : List Value} (h : v ∈ items) :
    v.literal.length < (list items).literal.length := by
  have hitem := Text.length_le_intercalate ", " (mem_literals h)
  have hmarks : "[".length + "]".length = 2 := rfl
  change v.literal.length < ("[" ++ ", ".intercalate (literals items) ++ "]").length
  rw [String.length_append, String.length_append]
  omega

/-- A map shows the values of its members, and more. -/
theorem length_literal_member {key : String} {v : Value} {members : Members} (h : (key, v) ∈ members) :
    v.literal.length < (map members).literal.length := by
  have hmember := Text.length_le_intercalate ", " (mem_memberLiterals h)
  have hmarks : "\x7b".length + "\x7d".length = 2 := rfl
  change v.literal.length < ("\x7b" ++ ", ".intercalate (memberLiterals members) ++ "\x7d").length
  rw [String.length_append] at hmember
  rw [String.length_append, String.length_append]
  omega

end Value

/-! ## The text of a rejection -/

namespace Rejection

theorem length_lt_literal {report : Report} {message : String} (h : message ∈ report.messages) :
    message.length < (reportValue report).literal.length := by
  obtain ⟨⟨path, messages⟩, hpath, hmessage⟩ := List.mem_flatMap.1 h
  calc message.length
    _ ≤ (Value.text message).literal.length := Text.length_le_quoted message
    _ < (Value.list (messages.map .text)).literal.length := Value.length_literal_item (List.mem_map_of_mem hmessage)
    _ < (reportValue report).literal.length :=
      Value.length_literal_member (List.mem_map.2 ⟨(path, messages), hpath, rfl⟩)

theorem message_of_single {r : Rejection} {message : String} (h : r.report.messages = [message]) :
    r.message = message := by
  rw [Rejection.message, h]

theorem message_of_several {r : Rejection} (h : r.report.messages.length ≠ 1) :
    r.message = (reportValue r.report).literal := by
  rw [Rejection.message]
  split
  · rename_i hone
    exact absurd (congrArg List.length hone) h
  · rfl

/-- The text of a rejection is a message of it just if it has no other. -/
theorem message_mem_iff (r : Rejection) : r.message ∈ r.report.messages ↔ r.report.messages.length = 1 := by
  constructor
  · intro h
    refine Decidable.byContradiction fun hlength => ?_
    have hlonger := length_lt_literal h
    rw [message_of_several hlength] at hlonger
    exact Nat.lt_irrefl _ hlonger
  · intro h
    obtain ⟨message, hone⟩ := List.length_eq_one_iff.1 h
    rw [message_of_single hone, hone]
    exact List.mem_singleton_self message

end Rejection

end PagedSelect
