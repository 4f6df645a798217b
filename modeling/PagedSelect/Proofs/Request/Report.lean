import Mathlib.Data.List.Induction
import PagedSelect.Proofs.Keyed
import PagedSelect.Proofs.Rejection
import PagedSelect.Request.Wire
/-!
# Reports of issues

A rejected request tells all that is wrong with it: the report of its issues has each path once, in the order
in which the paths come up, and under it the messages of just the issues with that path.  Paths that are made
of different steps may be one text; the messages of such issues stand together, and none is lost.
-/

namespace PagedSelect

/-! ## Collecting messages -/

/-- Of several equal items the first one is kept. -/
theorem eraseDups_append_singleton {α : Type} [BEq α] [LawfulBEq α] [DecidableEq α] (l : List α) (a : α) :
    (l ++ [a]).eraseDups = if a ∈ l then l.eraseDups else l.eraseDups ++ [a] := by
  rw [List.eraseDups_append]
  by_cases h : a ∈ l <;> simp [List.removeAll, List.eraseDups_cons, h]

namespace Report

/-- The messages of the issues with a path, in their order. -/
def messagesAt (issues : List Issue) (path : String) : List String :=
  (issues.filter (·.dotted == path)).map (·.fault.message)

theorem ofIssues_append (issues : List Issue) (i : Issue) :
    ofIssues (issues ++ [i]) = (ofIssues issues).add i.dotted i.fault.message := by
  rw [ofIssues, List.foldl_append]
  rfl

theorem keys_ofIssues (issues : List Issue) :
    Keyed.keys (ofIssues issues) = (issues.map Issue.dotted).eraseDups := by
  induction issues using List.reverseRecOn with
  | nil => rfl
  | append_singleton issues i ih =>
    rw [ofIssues_append, add, keys_put_eq, ih, List.map_append, List.map_singleton, eraseDups_append_singleton]
    simp only [List.mem_eraseDups]

theorem nodup_keys_ofIssues (issues : List Issue) : (Keyed.keys (ofIssues issues)).Nodup := by
  induction issues using List.reverseRecOn with
  | nil => exact List.nodup_nil
  | append_singleton issues i ih =>
    rw [ofIssues_append]
    exact nodup_keys_put _ _ ih

theorem getD_ofIssues (issues : List Issue) (path : String) :
    (Keyed.get? path (ofIssues issues)).getD [] = messagesAt issues path := by
  induction issues using List.reverseRecOn with
  | nil => rfl
  | append_singleton issues i ih =>
    rw [ofIssues_append, add, get?_put]
    by_cases h : i.dotted = path
    · subst h
      simp [messagesAt, ih]
    · rw [if_neg h, ih]
      simp [messagesAt, h]

/-- The report of issues, path by path. -/
theorem ofIssues_eq (issues : List Issue) :
    ofIssues issues = (issues.map Issue.dotted).eraseDups.map fun path => (path, messagesAt issues path) := by
  have hentry : ∀ e ∈ ofIssues issues, (e.1, messagesAt issues e.1) = e := by
    intro e he
    rw [← getD_ofIssues, get?_of_mem (nodup_keys_ofIssues issues) he]
    rfl
  rw [← keys_ofIssues, Keyed.keys, List.map_map]
  exact ((List.map_congr_left hentry).trans (List.map_id _)).symm

/-- Different paths with one text. -/
example :
    ofIssues [⟨[.key "a.b"], .notText⟩, ⟨[.key "c"], .required⟩, ⟨[.key "a", .key "b"], .notInt⟩] =
      [("a.b", ["Input should be a valid string", "Input should be a valid integer"]), ("c", ["Field required"])] := by
  decide

/-! ## No message is lost -/

theorem messages_add (report : Report) (path message : String) :
    (report.add path message).messages.Perm (report.messages ++ [message]) := by
  induction report with
  | nil => rfl
  | cons e r ih =>
    rw [add, Keyed.put, Keyed.get?]
    split
    · -- The message goes behind those under its path, before those of the later paths.
      simp only [messages, List.flatMap_cons, Option.getD_some, List.append_assoc]
      exact List.perm_append_comm.append_left e.2
    · simp only [messages, List.flatMap_cons, List.append_assoc]
      exact ih.append_left e.2

theorem messages_ofIssues (issues : List Issue) :
    (ofIssues issues).messages.Perm (issues.map (·.fault.message)) := by
  induction issues using List.reverseRecOn with
  | nil => rfl
  | append_singleton issues i ih =>
    rw [ofIssues_append, List.map_append]
    exact (messages_add _ _ _).trans (ih.append_right _)

end Report

/-! ## Requests -/

/-- A request that is read with issues is rejected with the messages of all of them. -/
theorem QueryRequest.rejection_tells_issues (issues : List Issue) :
    let r := Rejection.malformed (.listed (Report.ofIssues issues))
    (∀ members, ofMembers members = .error issues → ofWire (.map members) = reject r) ∧
    -- Each path stands once, where it came up first, with the messages of the issues that have it.
    r.report = (issues.map Issue.dotted).eraseDups.map (fun path => (path, Report.messagesAt issues path)) ∧
    r.report.messages.Perm (issues.map (·.fault.message)) ∧ r.report.messages.length = issues.length ∧
    -- The text is a message just if there is one issue, and else it shows the whole report.
    (r.message ∈ issues.map (·.fault.message) ↔ issues.length = 1) ∧
    (issues.length ≠ 1 → r.message = (Rejection.reportValue r.report).literal) := by
  intro r
  have hperm : r.report.messages.Perm (issues.map (·.fault.message)) := Report.messages_ofIssues issues
  have hlength : r.report.messages.length = issues.length := by
    rw [hperm.length_eq, List.length_map]
  refine ⟨fun members h => ?rejected, Report.ofIssues_eq issues, hperm, hlength, ?single, fun h => ?several⟩
  case rejected =>
    rw [ofWire, h]
  case single =>
    rw [← hperm.mem_iff, ← hlength]
    exact r.message_mem_iff
  case several =>
    exact Rejection.message_of_several (hlength ▸ h)

/-- A map that is wrong in several places. -/
def wrongRequest : Members :=
  [("fields", .list [.text "name", .int 2]), ("sort", .int 3),
    ("pagination", .map [("page", .text "first"), ("pageSize", .null), ("limit", .decimal (.finite false 15 (-1)))])]

theorem wrongRequest_told :
    ∃ issues, QueryRequest.ofMembers wrongRequest = .error issues ∧ issues.length = 6 ∧
      QueryRequest.ofWire (.map wrongRequest) = reject (.malformed (.listed (Report.ofIssues issues))) ∧
      Report.ofIssues issues = [
        ("fields.1", ["Input should be a valid string"]),
        ("sort.dict[str,any]", ["Input should be a valid dictionary"]),
        ("sort.list[union[SortItem,str]]", ["Input should be a valid list"]),
        ("sort.str", ["Input should be a valid string"]),
        ("pagination.page", ["Input should be a valid integer, unable to parse string as an integer"]),
        ("pagination.limit", ["Input should be a valid integer, got a number with a fractional part"])] := by
  have h : QueryRequest.ofMembers wrongRequest = .error _ := rfl
  obtain ⟨hrejected, -⟩ := QueryRequest.rejection_tells_issues _
  exact ⟨_, h, rfl, hrejected wrongRequest h, by decide⟩

end PagedSelect
