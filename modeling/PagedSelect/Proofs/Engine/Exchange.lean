import PagedSelect.Engine.Run
import PagedSelect.Proofs.Engine.Window
/-!
# What a run sends

A run sends the count statement and then the statement of its query, each once, and goes no further than
the part that fails; its failure is the one of that part.  Both statements come from the one query: they
have the same table, the same predicates and the same parameters.  A query whose limit or offset is too
long to be written has no statement, which shows only when the rows are counted already.
-/

namespace PagedSelect

/-- A number with more digits than can be written. -/
def Numeral.IsLong (n : Int) : Prop := maxDigits < (Nat.toDigits 10 n.natAbs).length

/-! ## The two statements of a query -/

namespace SelectQuery

/-- The predicates in the statements of a query. -/
def whereClause (q : SelectQuery) : List String := listClause "WHERE" " AND " q.predicateTexts

/-- The count statement of a query, and the statement for its rows. -/
structure Paired (q : SelectQuery) (label : String) (c d : Statement) : Prop where
  countText : c.text = " ".intercalate (("SELECT COUNT(1) AS " ++ label ++ " FROM " ++ q.table) :: q.whereClause)
  text : ∃ limit offset, amountClause "LIMIT" q.limit = .ok limit ∧ amountClause "OFFSET" q.offset = .ok offset ∧
    d.text = " ".intercalate (("SELECT " ++ ", ".intercalate q.projection.texts ++ " FROM " ++ q.table) ::
      (q.whereClause ++ listClause "ORDER BY" ", " (q.ordering.map OrderTerm.text) ++ limit ++ offset))
  countParameters : c.parameters = q.parameters
  parameters : d.parameters = q.parameters

/-- An amount of the window that has too many digits to be written. -/
def HasLongAmount (q : SelectQuery) : Prop :=
  ∃ n, (q.limit = some (.whole n) ∨ q.offset = some (.whole n)) ∧ Numeral.IsLong n

variable {q : SelectQuery} {label : String} {c d : Statement} {f : Failure}

theorem countStatement_of_accepts (h : Identifier.accepts label = true) : q.countStatement label = .ok
    ⟨" ".intercalate (("SELECT COUNT(1) AS " ++ label ++ " FROM " ++ q.table) :: q.whereClause), q.parameters⟩ := by
  have hcheck : Identifier.check label = .ok label := Identifier.check_eq_ok.2 ⟨h, rfl⟩
  have hhead : "SELECT " ++ ", ".intercalate ["COUNT(1) AS " ++ label] ++ " FROM " ++ q.table
      = "SELECT COUNT(1) AS " ++ label ++ " FROM " ++ q.table := by
    rw [String.intercalate_singleton, ← String.append_assoc]
    rfl
  rw [countStatement, counting, hcheck, ← hhead]
  simp only [ok_bind, pure_eq_ok, statement, sql, amountClause, List.map_nil, listClause, List.append_nil]
  rfl

/-- A count statement fails for its label only. -/
theorem countStatement_eq_error (h : q.countStatement label = .error f) : Identifier.check label = .error f := by
  cases hcheck : Identifier.check label with
  | error g =>
    rw [countStatement, counting, hcheck] at h
    cases h
    rfl
  | ok s =>
    rw [countStatement_of_accepts (Identifier.check_eq_ok.1 hcheck).1] at h
    cases h

theorem paired (hc : q.countStatement label = .ok c) (hd : q.statement = .ok d) : q.Paired label c d := by
  obtain ⟨text, hsql, rfl⟩ := map_eq_ok.1 hd
  obtain ⟨limit, hlimit, hsql⟩ := bind_eq_ok.1 hsql
  obtain ⟨offset, hoffset, hsql⟩ := bind_eq_ok.1 hsql
  cases hsql
  obtain ⟨counted, hcounted, -⟩ := bind_eq_ok.1 hc
  obtain ⟨haccepts, -⟩ := Identifier.check_bind_eq_ok.1 hcounted
  rw [countStatement_of_accepts haccepts] at hc
  cases hc
  exact ⟨rfl, ⟨limit, offset, hlimit, hoffset, rfl⟩, rfl, rfl⟩

theorem writeWhole_eq_error {n : Int} : writeWhole n = .error f ↔ f = .tooLongToWrite ∧ Numeral.IsLong n := by
  unfold writeWhole Numeral.write? Numeral.IsLong
  by_cases h : Numeral.maxDigits < (Nat.toDigits 10 n.natAbs).length
  · simp [h, eq_comm]
  · simp [h]

theorem amountClause_eq_error {keyword : String} {n? : Option Int} :
    amountClause keyword (n?.map .whole) = .error f ↔ f = .tooLongToWrite ∧ ∃ n ∈ n?, Numeral.IsLong n := by
  cases n? with
  | none => simp [amountClause]
  | some n =>
    change (writeWhole n).map _ = _ ↔ _
    have hmap : (writeWhole n).map (fun s => [keyword ++ " " ++ s]) = .error f ↔ writeWhole n = .error f := by
      cases writeWhole n <;> simp [Except.map]
    rw [hmap, writeWhole_eq_error]
    simp

/-- A query with a window of whole numbers has no statement if one of them is too long, and in no other
case. -/
theorem statement_eq_error {limit offset : Option Int} (hlimit : q.limit = limit.map .whole)
    (hoffset : q.offset = offset.map .whole) :
    q.statement = .error f ↔ f = .tooLongToWrite ∧ q.HasLongAmount := by
  have hlong : q.HasLongAmount ↔ (∃ n ∈ limit, Numeral.IsLong n) ∨ ∃ n ∈ offset, Numeral.IsLong n := by
    simp [HasLongAmount, hlimit, hoffset, or_and_right, exists_or]
  rw [hlong, statement, sql, hlimit, hoffset]
  cases hl : amountClause "LIMIT" (limit.map .whole) with
  | error g =>
    obtain ⟨rfl, hlimit⟩ := amountClause_eq_error.1 hl
    rw [error_bind, Except.map, Except.error.injEq, eq_comm]
    exact (and_iff_left (.inl hlimit)).symm
  | ok l =>
    have hshort : ¬ ∃ n ∈ limit, Numeral.IsLong n := by
      intro h
      cases hl.symm.trans (amountClause_eq_error.2 ⟨rfl, h⟩)
    rw [ok_bind, or_iff_right hshort, ← amountClause_eq_error]
    cases amountClause "OFFSET" (offset.map .whole) <;> simp [Except.map]

end SelectQuery

/-! ## The course of a run -/

namespace Engine

/-- What a run for a query sends and how it ends, by the part that fails. -/
structure Follows (g : Engine) (mapper : RowMapper) (built : Outcome SelectQuery) (run : Run PagedResult) : Prop where
  /-- Without a query, nothing is sent. -/
  unbuilt : ∀ f, built = .error f → run = ⟨[], .error f⟩
  /-- Without a count statement, nothing is sent; that is for its label only. -/
  unnamed : ∀ q f, built = .ok q → q.countStatement g.translator.config.countAlias = .error f →
    Identifier.check g.translator.config.countAlias = .error f ∧ run = ⟨[], .error f⟩
  /-- A count that fails is the last thing sent. -/
  uncounted : ∀ q c f, built = .ok q → q.countStatement g.translator.config.countAlias = .ok c →
    g.store.fetchCount c = .error f → run = ⟨[c], .error f⟩
  /-- So is a count that is no whole number. -/
  notWhole : ∀ q c v f, built = .ok q → q.countStatement g.translator.config.countAlias = .ok c →
    g.store.fetchCount c = .ok v → v.whole = .error f → run = ⟨[c], .error (.notWhole f)⟩
  /-- So is the count for a query without a statement. -/
  unwritten : ∀ q c v total f, built = .ok q → q.countStatement g.translator.config.countAlias = .ok c →
    g.store.fetchCount c = .ok v → v.whole = .ok total → q.statement = .error f → run = ⟨[c], .error f⟩
  /-- Otherwise both statements are sent, whatever comes behind them. -/
  sent : ∀ q c v total d, built = .ok q → q.countStatement g.translator.config.countAlias = .ok c →
    g.store.fetchCount c = .ok v → v.whole = .ok total → q.statement = .ok d →
    run.events = [c, d] ∧ q.Paired g.translator.config.countAlias c d ∧
    run.outcome = (do
      let data ← (← g.store.fetchRows d).mapM mapper.apply
      PagedResult.ofRows data total (← wholePart q.limit) (← wholePart q.offset))

variable {g : Engine} {mapper : RowMapper} {q : SelectQuery} {c d : Statement} {f : Failure}

theorem count_of_error (h : q.countStatement g.translator.config.countAlias = .error f) :
    g.count q = ⟨[], .error f⟩ := by
  rw [count, h]
  rfl

theorem count_of_ok (h : q.countStatement g.translator.config.countAlias = .ok c) :
    g.count q = ⟨[c], do (← g.store.fetchCount c).whole.mapError .notWhole⟩ := by
  rw [count, h, Traced.silent_ok_bind]
  cases g.store.fetchCount c <;> rfl

theorem fetch_of_error (h : q.statement = .error f) : g.fetch mapper q = ⟨[], .error f⟩ := by
  rw [fetch, h]
  rfl

theorem fetch_of_ok (h : q.statement = .ok d) :
    g.fetch mapper q = ⟨[d], do (← g.store.fetchRows d).mapM mapper.apply⟩ := by
  rw [fetch, h, Traced.silent_ok_bind]
  cases g.store.fetchRows d <;> rfl

theorem follows (built : Outcome SelectQuery) :
    g.Follows mapper built (Traced.silent built >>= g.page mapper) where
  unbuilt f hbuilt := by rw [hbuilt, Traced.silent_error_bind]
  unnamed q f hbuilt hc := by
    refine ⟨SelectQuery.countStatement_eq_error hc, ?_⟩
    rw [hbuilt, Traced.silent_ok_bind, page, count_of_error hc]
    rfl
  uncounted q c f hbuilt hc hcount := by
    rw [hbuilt, Traced.silent_ok_bind, page, count_of_ok hc, hcount]
    rfl
  notWhole q c v f hbuilt hc hcount hwhole := by
    rw [hbuilt, Traced.silent_ok_bind, page, count_of_ok hc, hcount, ok_bind, hwhole]
    rfl
  unwritten q c v total f hbuilt hc hcount hwhole hd := by
    rw [hbuilt, Traced.silent_ok_bind, page, count_of_ok hc, hcount, ok_bind, hwhole, fetch_of_error hd]
    rfl
  sent q c v total d hbuilt hc hcount hwhole hd := by
    have hpaired : q.Paired g.translator.config.countAlias c d := SelectQuery.paired hc hd
    rw [hbuilt, Traced.silent_ok_bind, page, count_of_ok hc, hcount, ok_bind, hwhole, fetch_of_ok hd,
      Traced.bind_of_ok rfl]
    -- The rows may fail, one of them may not be mapped, or there is a page.
    cases g.store.fetchRows d with
    | error f => exact ⟨rfl, hpaired, rfl⟩
    | ok rows =>
      rw [ok_bind, ok_bind]
      cases rows.mapM mapper.apply with
      | error f => exact ⟨rfl, hpaired, rfl⟩
      | ok data => exact ⟨rfl, hpaired, rfl⟩

/-- A run sends nothing without a query and a count alias, the count statement alone if the count fails or
the query has no statement, and otherwise both statements, which agree on the rows that they are about; its
failure is the one of the part that fails.  A query has no statement if its limit or offset is too long to
be written, and in no other case as long as a caller's operators leave the window alone. -/
theorem execute_follows (g : Engine) (w : Option Whitelist) (mapper : RowMapper) (e : Entity) :
    (∀ raw, g.Follows mapper (g.translator.queryOfWire w e raw) (g.execute w mapper e raw)) ∧
    (∀ r, g.Follows mapper (g.translator.query w e r) (g.executeRequest w mapper e r)) ∧
    (g.translator.registry.HasEffects noAmount → ∀ r q, g.translator.query w e r = .ok q →
      ∀ f, q.statement = .error f ↔ f = .tooLongToWrite ∧ q.HasLongAmount) := by
  refine ⟨fun raw => follows _, fun r => follows _, fun hregistry r q hq f => ?_⟩
  obtain ⟨b, -, -, hlimit, hoffset⟩ := Translator.query_window hregistry hq
  exact SelectQuery.statement_eq_error hlimit hoffset

end Engine

/-- A store that counts no rows and then fails. -/
def rowsDown : Store := ⟨fun _ => .ok (.int 0), fun _ => .error (.storage "down")⟩

/-- The second page of the adults. -/
def adultsPage : Value := .map [
  ("filters", .map [("age", .map [("gte", .int 18)])]),
  ("pagination", .map [("page", .int 2), ("pageSize", .int 5)])]

/-- The query for that page. -/
def adultsQuery : SelectQuery where
  table := "users"
  placeholder := ":"
  projection := .columns ["*"]
  predicates := [.comparison "age" .greaterEqual 0]
  ordering := []
  limit := some (.whole 5)
  offset := some (.whole 5)
  bindings := [("p0", .int 18)]
  nextParam := 1

theorem adultsPage_sends_both : ∃ c d,
    (Engine.execute ⟨{}, rowsDown⟩ none .asMap (.value (.text "users")) adultsPage).events = [c, d] ∧
    (Engine.execute ⟨{}, rowsDown⟩ none .asMap (.value (.text "users")) adultsPage).outcome
      = .error (.storage "down") ∧
    c.text = "SELECT COUNT(1) AS count FROM users WHERE age >= :p0" ∧
    d.text = "SELECT * FROM users WHERE age >= :p0 LIMIT 5 OFFSET 5" ∧
    c.parameters = d.parameters ∧ ¬ adultsQuery.HasLongAmount := by
  obtain ⟨hwire, -, hlong⟩ := Engine.execute_follows ⟨{}, rowsDown⟩ none .asMap (.value (.text "users"))
  have hq : Translator.queryOfWire {} none (.value (.text "users")) adultsPage = .ok adultsQuery := rfl
  have hc : adultsQuery.countStatement "count" = .ok _ := rfl
  have hd : adultsQuery.statement = .ok _ := rfl
  obtain ⟨hevents, hpaired, houtcome⟩ := (hwire adultsPage).sent adultsQuery _ (.int 0) 0 _ hq hc rfl rfl hd
  refine ⟨_, _, hevents, houtcome, rfl, rfl, hpaired.countParameters.trans hpaired.parameters.symm, fun h => ?_⟩
  obtain ⟨r, -, hr⟩ := bind_eq_ok.1 hq
  cases hd.symm.trans ((hlong standard_hasEffects r adultsQuery hr .tooLongToWrite).2 ⟨rfl, h⟩)

/-- A page whose offset has more digits than can be written, though its number and its size have not. -/
def longPage : Value := .map [
  ("pagination", .map [("page", .int (Int.pow 10 2200)), ("pageSize", .int (Int.pow 10 2200))])]

/-- The query for such a page is built and its rows are counted, and then there is no statement for them. -/
theorem longPage_sends_count_only :
    (∃ q, Translator.queryOfWire {} none (.value (.text "users")) longPage = .ok q) ∧
    (∀ s, rowsDown.fetchCount s = .ok (.int 0)) ∧
    ∃ c, (Engine.execute ⟨{}, rowsDown⟩ none .asMap (.value (.text "users")) longPage).events = [c] := by
  have hbuilt : (Translator.queryOfWire {} none (.value (.text "users")) longPage).isOk = true := by decide +kernel
  have hsent : (Engine.execute ⟨{}, rowsDown⟩ none .asMap (.value (.text "users")) longPage).events.length = 1 := by
    decide +kernel
  refine ⟨?_, fun _ => rfl, List.length_eq_one_iff.1 hsent⟩
  cases hq : Translator.queryOfWire {} none (.value (.text "users")) longPage with
  | ok q => exact ⟨q, rfl⟩
  | error f =>
    rw [hq] at hbuilt
    cases hbuilt

end PagedSelect
