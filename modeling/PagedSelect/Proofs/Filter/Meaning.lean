import PagedSelect.Proofs.Filter.Standard
/-!
# What filters mean

The meaning of a filter is a restriction of rows, or nothing: a text with places for parameters, and the
values for them.  It is read off the condition alone.  Lenient translation of filters on identifiers adds
what they mean, one predicate for each restriction, in order and with the next parameters, as long as these
have names.  It fails only for a value that is to be a text and has none.
-/

namespace PagedSelect

variable {q q' : SelectQuery} {field : String} {condition : Members} {v : Value}

/-! ## Restrictions -/

/-- A restriction of rows: how it is written, from how its parameters are written, and their values. -/
structure Restriction where
  text : (Nat → String) → String
  values : List Value

namespace Restriction

def comparison (field symbol : String) (v : Value) : Restriction :=
  ⟨fun param => field ++ " " ++ symbol ++ " " ++ param 0, [v]⟩

def membership (field : String) (items : List Value) : Restriction :=
  ⟨fun param => field ++ " IN (" ++ ", ".intercalate ((List.range items.length).map param) ++ ")", items⟩

def range (field : String) (low high : Value) : Restriction :=
  ⟨fun param => field ++ " BETWEEN " ++ param 0 ++ " AND " ++ param 1, [low, high]⟩

def missing (field : String) : Restriction := ⟨fun _ => field ++ " IS NULL", []⟩

def present (field : String) : Restriction := ⟨fun _ => field ++ " IS NOT NULL", []⟩

/-- Membership among items, if there are any. -/
def ofItems? (field : String) : Option (List Value) → Option Restriction
  | some (item :: items) => some (membership field (item :: items))
  | _ => none

/-- A range from exactly two items. -/
def ofBounds? (field : String) : Option (List Value) → Option Restriction
  | some [low, high] => some (range field low high)
  | _ => none

/-- Restrictions as they are written one after another, with the parameters from `first` on. -/
def texts (mark : String) (first : Nat) : List Restriction → List String
  | [] => []
  | r :: others => r.text (fun i => paramText mark (first + i)) :: texts mark (first + r.values.length) others

theorem texts_append (mark : String) (first : Nat) (rs rs' : List Restriction) : texts mark first (rs ++ rs')
    = texts mark first rs ++ texts mark (first + (rs.flatMap values).length) rs' := by
  induction rs generalizing first with
  | nil => rfl
  | cons r others ih =>
    rw [List.cons_append, texts, texts, ih, List.flatMap_cons, List.length_append, Nat.add_assoc, List.cons_append]

end Restriction

/-! ## Meanings -/

/-- The restriction of a field by an operator with its value; `exact` asks for the whole text. -/
def Operator.meaning (field : String) (exact : Bool) : Operator → Value → Option Restriction
  | eq, v => some (.comparison field "=" v)
  | ne, v => some (.comparison field "!=" v)
  | gt, v => some (.comparison field ">" v)
  | gte, v => some (.comparison field ">=" v)
  | lt, v => some (.comparison field "<" v)
  | lte, v => some (.comparison field "<=" v)
  | isIn, v => Restriction.ofItems? field v.sequence?
  | between, v => Restriction.ofBounds? field v.sequence?
  | like, v => if v.isNull then none else some (.comparison field "LIKE" (.text v.plain))
  | search, v =>
    if v.isNull || Text.isVoid v.plain then none
    else if exact then some (.comparison field "=" (.text v.plain))
    else some (.comparison field "LIKE" (.text ("%" ++ v.plain ++ "%")))
  | isNull, .bool true => some (.missing field)
  | isNull, _ => some (.present field)

/-- The first operator, in the order of precedence, that is a key of a condition, and its value. -/
def Operator.ofCondition? (condition : Members) : Option (Operator × Value) :=
  all.findSome? fun op => (Keyed.get? op.name condition).map fun v => (op, v)

/-- Whether a condition has exactly the flag `true` beside its operator. -/
def Operator.saysExact (condition : Members) : Bool :=
  match Keyed.get? "exact" condition with
  | some (.bool b) => b
  | _ => false

/-- The restriction that a filter on a field asks for; none if the filter is passed over. -/
def Value.meaning (field : String) : Value → Option Restriction
  | .map condition => do
    let (op, v) ← Operator.ofCondition? condition
    op.meaning field (Operator.saysExact condition) v
  | v => some (.comparison field "=" v)

example : Operator.all.map Operator.name
    = ["eq", "ne", "gt", "gte", "lt", "lte", "in", "between", "like", "search", "isNull"] := rfl

/-- The value that an operator turns into a text, if it does. -/
def Operator.textual? : Operator → Value → Option Value
  | like, v | search, v => if v.isNull then none else some v
  | _, _ => none

/-- The value of a filter that is turned into a text, if there is one. -/
def Value.textual? : Value → Option Value
  | .map condition => do
    let (op, v) ← Operator.ofCondition? condition
    op.textual? v
  | _ => none

/-- The value of a filter that is turned into a text has a text. -/
def Value.HasText (v : Value) : Prop := ∀ t ∈ v.textual?, t.isWritable = true

/-! ## Names of parameters -/

/-- The numbers of so many parameters from `first` on are not too long to be written in their names. -/
def CanName (first count : Nat) : Prop := ∀ n, first ≤ n → n < first + count → (Numeral.write? n).isSome = true

/-- The names of parameters from `first` on: each is its number, as it is written, behind a `p`. -/
inductive ParamNames : Nat → List String → Prop
  | nil {first : Nat} : ParamNames first []
  | cons {first : Nat} {digits : String} {names : List String} (h : Numeral.write? first = some digits)
      (hr : ParamNames (first + 1) names) : ParamNames first (("p" ++ digits) :: names)

/-- As long as its number can be written, a parameter has a name of its own. -/
theorem paramName_of_write? {n : Nat} {digits : String} (h : Numeral.write? n = some digits) :
    paramName n = "p" ++ digits := by
  unfold Numeral.write? at h
  split at h
  · cases h
  · cases h
    rfl

/-- Values are bound to the names of their parameters, if these have names. -/
theorem numbered_eq_zip {first : Nat} {vs : List Value} (h : CanName first vs.length) :
    ∃ names, ParamNames first names ∧ names.length = vs.length ∧ SelectQuery.numbered first vs = names.zip vs := by
  induction vs generalizing first with
  | nil => exact ⟨[], .nil, rfl, rfl⟩
  | cons v r ih =>
    have hfirst : first < first + (v :: r).length := by simp
    obtain ⟨digits, hdigits⟩ := Option.isSome_iff_exists.1 (h first (Nat.le_refl first) hfirst)
    have hothers : CanName (first + 1) r.length := fun n hl hr => h n (by omega) (by rw [List.length_cons]; omega)
    obtain ⟨names, hnames, hlength, hzip⟩ := ih hothers
    refine ⟨("p" ++ digits) :: names, .cons hdigits hnames, by simp [hlength], ?_⟩
    rw [SelectQuery.numbered, paramName_of_write? hdigits, hzip, List.zip_cons_cons]

/-! ## Adding a restriction -/

/-- A query with the predicates of some restrictions more, their values under the names of the next
parameters, and nothing else changed. -/
structure Restricted (q q' : SelectQuery) (rs : List Restriction) : Prop where
  predicates : ∃ ps, q'.predicates = q.predicates ++ ps ∧
    ps.map (Predicate.text q.placeholder) = Restriction.texts q.placeholder q.nextParam rs
  bindings : q'.bindings = q.bindings ++ SelectQuery.numbered q.nextParam (rs.flatMap Restriction.values)
  nextParam : q'.nextParam = q.nextParam + (rs.flatMap Restriction.values).length
  table : q'.table = q.table
  placeholder : q'.placeholder = q.placeholder
  projection : q'.projection = q.projection
  ordering : q'.ordering = q.ordering
  limit : q'.limit = q.limit
  offset : q'.offset = q.offset

theorem numbered_append (first : Nat) (vs ws : List Value) : SelectQuery.numbered first (vs ++ ws)
    = SelectQuery.numbered first vs ++ SelectQuery.numbered (first + vs.length) ws := by
  induction vs generalizing first with
  | nil => rfl
  | cons v r ih =>
    rw [List.cons_append, SelectQuery.numbered, SelectQuery.numbered, ih, List.cons_append, List.length_cons]
    congr 3
    omega

namespace Restricted

theorem refl (q : SelectQuery) : Restricted q q [] where
  predicates := ⟨[], by simp, rfl⟩
  bindings := by simp [SelectQuery.numbered]
  nextParam := rfl
  table := rfl
  placeholder := rfl
  projection := rfl
  ordering := rfl
  limit := rfl
  offset := rfl

/-- Restrictions, and then others. -/
theorem trans {q₁ : SelectQuery} {rs rs' : List Restriction} (h : Restricted q q₁ rs)
    (h' : Restricted q₁ q' rs') : Restricted q q' (rs ++ rs') := by
  obtain ⟨ps, hps, htexts⟩ := h.predicates
  obtain ⟨ps', hps', htexts'⟩ := h'.predicates
  refine ⟨⟨ps ++ ps', ?_, ?_⟩, ?_, ?_, h'.table.trans h.table, h'.placeholder.trans h.placeholder,
    h'.projection.trans h.projection, h'.ordering.trans h.ordering, h'.limit.trans h.limit, h'.offset.trans h.offset⟩
  · rw [hps', hps, List.append_assoc]
  · rw [List.map_append, htexts, ← h.placeholder, htexts', h.nextParam, Restriction.texts_append]
  · rw [h'.bindings, h.bindings, h.nextParam, List.flatMap_append, numbered_append, List.append_assoc]
  · rw [h'.nextParam, h.nextParam, List.flatMap_append, List.length_append, Nat.add_assoc]

end Restricted

/-! ## Operators -/

/-- The outcome of adding a restriction on a field to a query, or nothing. -/
def Asks (q : SelectQuery) (field : String) (result : Outcome SelectQuery) : Option Restriction → Prop
  | none => result = .ok q
  | some r => ∃ p : Predicate, p.text q.placeholder = r.text (fun i => paramText q.placeholder (q.nextParam + i)) ∧
    result = if Identifier.accepts field then .ok (q.withPredicate p r.values) else reject (.badField field none)

theorem Asks.orSkip {result : Outcome SelectQuery} {r : Restriction} {rules : FilterRules}
    (h : Asks q field result (some r)) : Asks q field (rules.orSkip q result) (some r) := by
  obtain ⟨p, hp, rfl⟩ := h
  refine ⟨p, hp, ?_⟩
  split <;> rfl

theorem asks_compare (op : Comparison) : Asks q field (q.compare field op v) (some (.comparison field op.symbol v)) :=
  ⟨.comparison field op q.nextParam, rfl, Identifier.check_bind _ _⟩

theorem asks_isIn {item : Value} {items : List Value} :
    Asks q field (q.isIn field (item :: items)) (some (.membership field (item :: items))) := by
  refine ⟨.membership field (List.range' q.nextParam (item :: items).length), ?_, Identifier.check_bind _ _⟩
  simp only [Predicate.text, Restriction.membership, List.range'_eq_map_range, List.map_map]
  rfl

theorem asks_between {low high : Value} :
    Asks q field (q.between field low high) (some (.range field low high)) :=
  ⟨.range field q.nextParam (q.nextParam + 1), rfl, Identifier.check_bind _ _⟩

theorem asks_isMissing : Asks q field (q.isMissing field) (some (.missing field)) :=
  ⟨.missing field, rfl, Identifier.check_bind _ _⟩

theorem asks_isPresent : Asks q field (q.isPresent field) (some (.present field)) :=
  ⟨.present field, rfl, Identifier.check_bind _ _⟩

namespace Operator

theorem isExact_eq (condition : Members) : isExact condition = saysExact condition := by
  unfold isExact saysExact
  cases Keyed.get? "exact" condition with
  | none => rfl
  | some v => cases v <;> rfl

/-- In lenient mode an operator adds what it means, or nothing. -/
theorem asks {op : Operator} (h : ∀ t ∈ op.textual? v, t.isWritable = true) :
    Asks q field ((standardRules false).orSkip q (op.apply false q field v condition))
      (op.meaning field (saysExact condition) v) := by
  cases op with
  | isIn =>
    change Asks q field ((standardRules false).orSkip q (applyIn q field v)) (Restriction.ofItems? field v.sequence?)
    unfold applyIn
    cases v.sequence? with
    | none => rfl
    | some items =>
      cases items with
      | nil => rfl
      | cons item items => exact asks_isIn.orSkip
  | between =>
    change Asks q field ((standardRules false).orSkip q (applyBetween q field v))
      (Restriction.ofBounds? field v.sequence?)
    unfold applyBetween
    rcases v.sequence? with _ | _ | ⟨low, _ | ⟨high, _ | ⟨_, _⟩⟩⟩
    · rfl
    · rfl
    · rfl
    · exact asks_between.orSkip
    · rfl
  | like =>
    change Asks q field ((standardRules false).orSkip q (if v.isNull then _ else _)) (if v.isNull then _ else _)
    by_cases hnull : v.isNull = true
    · rw [if_pos hnull, if_pos hnull]
      rfl
    · rw [if_neg hnull, if_neg hnull, written_of_isWritable (h v (if_neg hnull)), ok_bind]
      exact (asks_compare .like).orSkip
  | search =>
    change Asks q field ((standardRules false).orSkip q (if v.isNull then _ else _))
      (if v.isNull || Text.isVoid v.plain then _ else _)
    by_cases hnull : v.isNull = true
    · rw [if_pos hnull, hnull]
      rfl
    · rw [if_neg hnull, written_of_isWritable (h v (if_neg hnull)), ok_bind, isExact_eq, SelectQuery.textSearch,
        Bool.eq_false_iff.2 hnull, Bool.false_or]
      by_cases hvoid : Text.isVoid v.plain = true
      · rw [if_pos hvoid, if_pos hvoid]
        rfl
      · rw [if_neg hvoid, if_neg hvoid]
        cases saysExact condition with
        | true => exact (asks_compare .equal).orSkip
        | false => exact (asks_compare .like).orSkip
  | isNull =>
    cases v with
    | bool b =>
      cases b with
      | true => exact asks_isMissing.orSkip
      | false => exact asks_isPresent.orSkip
    | _ => exact asks_isPresent.orSkip
  | _ => exact (asks_compare _).orSkip

theorem eq_of_textual? {op : Operator} {t : Value} (h : t ∈ op.textual? v) : v.isNull = false ∧ v = t := by
  cases op with
  | like => simpa [textual?] using h
  | search => simpa [textual?] using h
  | _ => cases h

theorem apply_unwritable {op : Operator} {t : Value} (ht : t ∈ op.textual? v) (h : t.isWritable = false) :
    op.apply false q field v condition = .error .tooLongToWrite := by
  obtain ⟨hnull, rfl⟩ := eq_of_textual? ht
  have hwritten : v.written = .error .tooLongToWrite := written_of_not_isWritable h
  cases op with
  | like => simp [apply, hnull, hwritten]
  | search => simp [apply, hnull, hwritten]
  | _ => cases ht

theorem get?_of_ofCondition? {op : Operator} (h : ofCondition? condition = some (op, v)) :
    Keyed.get? op.name condition = some v := by
  obtain ⟨op', -, h⟩ := List.exists_of_findSome?_eq_some h
  obtain ⟨v', hv, h⟩ := Option.map_eq_some_iff.1 h
  cases h
  exact hv

/-- The operator that a condition is recognised by first is the first among its keys. -/
theorem recognized_head? (condition : Members) :
    (Registry.standard.recognized condition).head? = (ofCondition? condition).map (·.1.name) := by
  have among (ops : List Operator) : ((ops.map name).filter fun name => Keyed.has name condition).head?
      = (ops.findSome? fun op => (Keyed.get? op.name condition).map fun v => (op, v)).map (·.1.name) := by
    induction ops with
    | nil => rfl
    | cons op r ih =>
      rw [List.map_cons, List.filter_cons, List.findSome?_cons, ← isSome_get?]
      cases Keyed.get? op.name condition with
      | none => exact ih
      | some v => rfl
  exact among all

end Operator

/-! ## Filters -/

theorem applyCondition_map (q : SelectQuery) (field : String) (condition : Members) :
    (standardRules false).applyCondition none q field (.map condition)
      = match Operator.ofCondition? condition with
        | none => .ok q
        | some (op, v) => (standardRules false).orSkip q (op.apply false q field v condition) := by
  have hop : (standardRules false).operator? field condition
      = .ok ((Operator.ofCondition? condition).map (·.1.name)) := by
    rw [← Operator.recognized_head?]
    rfl
  simp only [FilterRules.applyCondition, hop, ok_bind]
  cases ho : Operator.ofCondition? condition with
  | none => rfl
  | some found =>
    obtain ⟨op, v⟩ := found
    simp only [Option.map_some, standard_get?, Operator.get?_of_ofCondition? ho]
    rfl

/-- A filter adds what it means, or nothing. -/
theorem asks_applyCondition (h : v.HasText) :
    Asks q field ((standardRules false).applyCondition none q field v) (v.meaning field) := by
  cases v with
  | map condition =>
    rw [applyCondition_map, Value.meaning]
    rw [Value.HasText, Value.textual?] at h
    cases ho : Operator.ofCondition? condition with
    | none => rfl
    | some found =>
      rw [ho] at h
      exact Operator.asks h
  | _ => exact asks_compare .equal

theorem Value.hasText_of_isWritable (h : v.isWritable = true) : v.HasText := by
  intro t ht
  cases v with
  | map condition =>
    rw [textual?] at ht
    cases ho : Operator.ofCondition? condition with
    | none =>
      rw [ho] at ht
      cases ht
    | some found =>
      rw [ho] at ht
      obtain ⟨-, rfl⟩ := Operator.eq_of_textual? ht
      exact isWritable_of_mem h (mem_of_get? (Operator.get?_of_ofCondition? ho))
  | _ => cases ht

theorem applyCondition_unwritable (h : ¬ v.HasText) :
    (standardRules false).applyCondition none q field v = .error .tooLongToWrite := by
  simp only [Value.HasText, Classical.not_forall, Bool.not_eq_true] at h
  obtain ⟨t, ht, hwritable⟩ := h
  cases v with
  | map condition =>
    rw [applyCondition_map]
    rw [Value.textual?] at ht
    cases ho : Operator.ofCondition? condition with
    | none =>
      rw [ho] at ht
      cases ht
    | some found =>
      rw [ho] at ht
      simp only [Operator.apply_unwritable ht hwritable]
      rfl
  | _ => cases ht

theorem Asks.restricted {result : Outcome SelectQuery} {r? : Option Restriction}
    (hfield : Identifier.accepts field = true) (h : Asks q field result r?) :
    ∃ q', result = .ok q' ∧ Restricted q q' r?.toList := by
  cases r? with
  | none => exact ⟨q, h, .refl q⟩
  | some r =>
    obtain ⟨p, hp, rfl⟩ := h
    refine ⟨q.withPredicate p r.values, if_pos hfield, ⟨[p], rfl, ?_⟩, ?_, ?_, rfl, rfl, rfl, rfl, rfl, rfl⟩
    · simpa [Restriction.texts] using hp
    · simp [SelectQuery.withPredicate]
    · simp [SelectQuery.withPredicate]

/-- Filters on identifiers are translated to what they mean, unless a value that is to be a text has none. -/
theorem FilterRules.apply_restricted (q : SelectQuery) {filters : Members}
    (hfields : ∀ f ∈ filters, Identifier.accepts f.1 = true) :
    ((∀ f ∈ filters, f.2.HasText) → ∃ q', (standardRules false).apply none q filters = .ok q' ∧
      Restricted q q' (filters.filterMap fun f => f.2.meaning f.1)) ∧
    ((∃ f ∈ filters, ¬ f.2.HasText) →
      (standardRules false).apply none q filters = .error .tooLongToWrite) := by
  induction filters generalizing q with
  | nil => exact ⟨fun _ => ⟨q, rfl, .refl q⟩, fun ⟨_, hf, _⟩ => nomatch hf⟩
  | cons f r ih =>
    rw [List.forall_mem_cons] at hfields
    unfold FilterRules.apply at ih ⊢
    rw [List.foldlM_cons]
    by_cases htext : f.2.HasText
    · obtain ⟨q₁, h₁, hr₁⟩ := (asks_applyCondition htext).restricted (q := q) hfields.1
      rw [h₁, ok_bind]
      obtain ⟨hok, hfail⟩ := ih q₁ hfields.2
      refine ⟨fun hall => ?_, fun ⟨g, hg, hnone⟩ => ?_⟩
      · obtain ⟨q₂, h₂, hr₂⟩ := hok (List.forall_mem_cons.1 hall).2
        refine ⟨q₂, h₂, ?_⟩
        have hall : Restricted q q₂ _ := hr₁.trans hr₂
        rw [List.filterMap_cons]
        cases hm : f.2.meaning f.1 with
        | none => simpa [hm] using hall
        | some m => simpa [hm] using hall
      · rcases List.mem_cons.1 hg with rfl | hg
        · exact absurd htext hnone
        · exact hfail ⟨g, hg, hnone⟩
    · rw [applyCondition_unwritable htext]
      exact ⟨fun hall => absurd (List.forall_mem_cons.1 hall).1 htext, fun _ => rfl⟩

/-- Filters on identifiers add what they mean, in order, and nothing else, and bind the values under the names of
the next parameters, if these have names; a value that is to be a text and has none is the only other way to
fail. -/
theorem FilterRules.apply_meaning (q : SelectQuery) {filters : Members}
    (hfields : ∀ f ∈ filters, Identifier.accepts f.1 = true) :
    let restrictions := filters.filterMap fun f => f.2.meaning f.1
    let values := restrictions.flatMap Restriction.values
    ((∀ f ∈ filters, f.2.HasText) → CanName q.nextParam values.length →
      ∃ q' names, (standardRules false).apply none q filters = .ok q' ∧ Restricted q q' restrictions ∧
        ParamNames q.nextParam names ∧ names.length = values.length ∧
        q'.bindings = q.bindings ++ names.zip values) ∧
    ((∃ f ∈ filters, ¬ f.2.HasText) →
      (standardRules false).apply none q filters = .error .tooLongToWrite) := by
  intro restrictions values
  obtain ⟨hok, hfail⟩ := apply_restricted q hfields
  refine ⟨fun htext hcan => ?_, hfail⟩
  obtain ⟨q', hq', hrestricted⟩ := hok htext
  obtain ⟨names, hnames, hlength, hzip⟩ := numbered_eq_zip hcan
  exact ⟨q', names, hq', hrestricted, hnames, hlength, hzip ▸ hrestricted.bindings⟩

/-- The users of a team. -/
def teamUsers : SelectQuery where
  table := "users"
  placeholder := ":"
  projection := .columns ["*"]
  predicates := [.comparison "team" .equal 0]
  ordering := []
  limit := none
  offset := none
  bindings := [("p0", .int 7)]
  nextParam := 1

/-- Two operators in one condition, a condition without an operator, and one of each other kind. -/
def mixedFilters : Members := [
  ("age", .map [("lt", .int 65), ("gte", .int 18)]),
  ("id", .map [("from", .int 1)]),
  ("city", .map [("in", .list [.text "Oslo", .text "Rome"])]),
  ("name", .map [("exact", .bool true), ("search", .text "Ann")]),
  ("active", .bool true)]

/-- Filters of every kind on a query with a parameter. -/
theorem mixedFilters_apply : ∃ q' names, (standardRules false).apply none teamUsers mixedFilters = .ok q' ∧
    Restricted teamUsers q' [.comparison "age" ">=" (.int 18),
      .membership "city" [.text "Oslo", .text "Rome"], .comparison "name" "=" (.text "Ann"),
      .comparison "active" "=" (.bool true)] ∧
    ParamNames 1 names ∧ q'.bindings = ("p0", .int 7) ::
      names.zip [.int 18, .text "Oslo", .text "Rome", .text "Ann", .bool true] := by
  have hfields : ∀ f ∈ mixedFilters, Identifier.accepts f.1 = true := by decide
  have htext : ∀ f ∈ mixedFilters, f.2.HasText := by
    simp only [mixedFilters, List.forall_mem_cons]
    refine ⟨nofun, nofun, nofun, ?_, nofun, nofun⟩
    rintro t ⟨⟩
    rfl
  have hcan : CanName 1 5 := by
    intro n hl hr
    obtain rfl | rfl | rfl | rfl | rfl : n = 1 ∨ n = 2 ∨ n = 3 ∨ n = 4 ∨ n = 5 := by omega
    all_goals rfl
  obtain ⟨q', names, hq', hrestricted, hnames, -, hbindings⟩ :=
    (FilterRules.apply_meaning teamUsers hfields).1 htext hcan
  exact ⟨q', names, hq', hrestricted, hnames, hbindings⟩

/-- An object with a number of 4301 digits as a pattern. -/
def unwritablePattern : Value :=
  .map [("like", .record "User" [("id", .int (Int.pow 10 4300)), ("name", .text "x")])]

/-- A pattern that means something but has no text is neither used nor passed over. -/
theorem unwritablePattern_fails :
    (∃ s, unwritablePattern.meaning "name" = some (.comparison "name" "LIKE" (.text s))) ∧
    (standardRules false).apply none teamUsers [("name", unwritablePattern)] = .error .tooLongToWrite := by
  refine ⟨⟨_, rfl⟩, ?_⟩
  -- Left to the kernel, which has fast arithmetic for a number of this size.
  have hlong : (Value.record "User" [("id", .int (Int.pow 10 4300)), ("name", .text "x")]).isWritable = false := by
    decide +kernel
  have hnone : ¬ unwritablePattern.HasText := fun h => nomatch (h _ rfl).symm.trans hlong
  rw [FilterRules.apply, List.foldlM_cons, applyCondition_unwritable hnone]
  rfl

end PagedSelect
