import PagedSelect.Proofs.Outcome
import PagedSelect.Proofs.Text.Pieces
import PagedSelect.Request.Basic
/-!
# Notations of an order

Fields with directions may be written as tokens with commas between them or as a list of objects; either
is resolved to the same fields.  An item that names no field is passed over or rejected, as long as it can be
shown.
-/

namespace PagedSelect.SortField

open Text

variable {o : String × Direction} {order : List (String × Direction)}

/-- A field in a direction, without a place for nulls. -/
def plain (o : String × Direction) : SortField := ⟨o.1, o.2, .null⟩

/-! ## Tokens -/

/-- The token for a field in a direction. -/
def token : String × Direction → String
  | (field, .ascending) => field
  | (field, .descending) => "-" ++ field

theorem ofToken?_ascending {s : String} {c : Char} {r : List Char} (h : trimEnds isSpace s.toList = c :: r)
    (hc : c ≠ '-') : ofToken? s = some (plain (String.ofList (c :: r), .ascending)) := by
  unfold ofToken?
  rw [h]
  split
  · rename_i heq
    cases heq
  · rename_i heq
    exact absurd (List.cons.inj heq).1 hc
  · rfl

theorem ofToken?_descending {s : String} {c : Char} {r r' : List Char} (h : trimEnds isSpace s.toList = '-' :: r)
    (hr : trimEnds isSpace r = c :: r') : ofToken? s = some (plain (String.ofList (c :: r'), .descending)) := by
  simp only [ofToken?, h]
  rw [hr]
  rfl

/-- A token names no field if it is void or a minus with spaces around it, and in no other case. -/
theorem ofToken?_eq_none {s : String} : ofToken? s = none ↔
    isVoid s = true ∨ ∃ pre post, isVoid pre = true ∧ isVoid post = true ∧ s = pre ++ "-" ++ post := by
  constructor
  · intro h
    obtain ⟨pre, post, hs, hpre, hpost⟩ := exists_padding isSpace s.toList
    cases htrim : trimEnds isSpace s.toList with
    | nil =>
      rw [htrim, List.append_nil] at hs
      refine .inl (List.all_eq_true.2 fun c hc => ?_)
      rw [hs] at hc
      exact (List.mem_append.1 hc).elim (hpre c) (hpost c)
    | cons c r =>
      by_cases hminus : c = '-'
      · subst hminus
        cases hr : trimEnds isSpace r with
        | nil =>
          -- Behind the minus there is nothing but spaces: those of the token, and those at its end.
          obtain ⟨pre', post', hr', hpre', hpost'⟩ := exists_padding isSpace r
          rw [hr, List.append_nil] at hr'
          refine .inr ⟨String.ofList pre, String.ofList (r ++ post), ?_, ?_, ?_⟩
          · rw [isVoid, String.toList_ofList]
            exact List.all_eq_true.2 hpre
          · rw [isVoid, String.toList_ofList]
            refine List.all_eq_true.2 fun c hc => (List.mem_append.1 hc).elim (fun hc => ?_) (hpost c)
            rw [hr'] at hc
            exact (List.mem_append.1 hc).elim (hpre' c) (hpost' c)
          · refine String.toList_inj.1 ?_
            rw [hs, htrim]
            simp
        | cons d r' =>
          rw [ofToken?_descending htrim hr] at h
          cases h
      · rw [ofToken?_ascending htrim hminus] at h
        cases h
  · rintro (hvoid | ⟨pre, post, hpre, hpost, rfl⟩)
    · rw [ofToken?, trimEnds_of_all (List.all_eq_true.1 hvoid)]
    · have hminus : "-".toList = ['-'] := rfl
      have htrim : trimEnds isSpace (pre ++ "-" ++ post).toList = "-".toList := by
        refine trimEnds_padded hpre hpost (by decide) ?_ ?_
        all_goals
          rw [hminus]
          rintro c ⟨⟩
          decide
      rw [ofToken?, htrim, hminus]
      rfl

theorem ofToken?_token (h : Identifier.isDotted o.1.toList = true) : ofToken? (token o) = some (plain o) := by
  obtain ⟨field, direction⟩ := o
  have hspace : ∀ c ∈ field.toList, isSpace c = false := isSpace_of_isDotted h
  obtain ⟨c, r, hf⟩ := List.exists_cons_of_ne_nil (Identifier.ne_nil_of_isDotted h)
  have htrim : trimEnds isSpace field.toList = c :: r := by rw [trimEnds_of_none hspace, hf]
  have hname : String.ofList (c :: r) = field := by rw [← hf, String.ofList_toList]
  cases direction with
  | ascending =>
    have hminus : c ≠ '-' := by
      rintro rfl
      exact not_mem_of_isDotted (c := '-') h (by decide) (by decide) (by simp [hf])
    have hread := ofToken?_ascending htrim hminus
    rwa [hname] at hread
  | descending =>
    have hwhole : trimEnds isSpace ("-" ++ field).toList = '-' :: field.toList := by
      rw [String.toList_append]
      refine trimEnds_of_none fun d hd => ?_
      rcases List.mem_cons.1 hd with rfl | hd
      · decide
      · exact hspace d hd
    have hread := ofToken?_descending hwhole htrim
    rwa [hname] at hread

theorem comma_not_mem_token (h : Identifier.isDotted o.1.toList = true) : ',' ∉ (token o).toList := by
  have hfield : ',' ∉ o.1.toList := not_mem_of_isDotted h (by decide) (by decide)
  obtain ⟨field, direction⟩ := o
  cases direction with
  | ascending => exact hfield
  | descending => simpa [token] using hfield

/-- Tokens with commas between them. -/
def tokens (order : List (String × Direction)) : String := ",".intercalate (order.map token)

theorem commaPieces_tokens (hne : order ≠ []) (h : ∀ o ∈ order, Identifier.isDotted o.1.toList = true) :
    commaPieces (tokens order) = order.map token := by
  refine commaPieces_intercalate (by simpa using hne) fun s hs => ?_
  obtain ⟨o, ho, rfl⟩ := List.mem_map.1 hs
  exact comma_not_mem_token (h o ho)

theorem filterMap_tokens (h : ∀ o ∈ order, Identifier.isDotted o.1.toList = true) :
    (order.map token).filterMap ofToken? = order.map plain := by
  induction order with
  | nil => rfl
  | cons o r ih =>
    rw [List.forall_mem_cons] at h
    rw [List.map_cons, List.filterMap_cons, ofToken?_token h.1, ih h.2, List.map_cons]

theorem tokens_ne_empty (hne : order ≠ []) (h : ∀ o ∈ order, Identifier.isDotted o.1.toList = true) :
    tokens order ≠ "" := by
  intro hempty
  have hread := filterMap_tokens h
  rw [← commaPieces_tokens hne h, hempty] at hread
  exact hne (List.map_eq_nil_iff.1 hread.symm)

/-- The tokens of an order are resolved to the order. -/
theorem resolve_tokens (strict : Bool) (hne : order ≠ [])
    (h : ∀ o ∈ order, Identifier.isDotted o.1.toList = true) :
    resolve strict (.text (tokens order)) = .ok (order.map plain) := by
  have hgiven : (Value.text (tokens order)).isGiven = true := by
    simpa [Value.isGiven] using tokens_ne_empty hne h
  simp only [resolve, hgiven, commaPieces_tokens hne h, filterMap_tokens h]
  rfl

/-! ## Objects -/

/-- The object for a field in a direction. -/
def item (o : String × Direction) : SortItem where
  field := some o.1
  direction := some o.2.keyword

theorem ofValue_keyword (d : Direction) : Direction.ofValue (.text d.keyword) = d := by
  cases d <;> decide

theorem ofItem_plain (hne : o.1 ≠ "") : ofItem (item o).toValue = .ok (some (plain o)) := by
  have hgiven : (Value.text o.1).isGiven = true := by simpa [Value.isGiven] using hne
  change (if (Value.text o.1).isGiven then do
      let field ← (Value.text o.1).written
      return some (⟨field, Direction.ofValue (.text o.2.keyword), .null⟩ : SortField)
    else .ok none) = _
  rw [if_pos hgiven, written_text, ok_bind, ofValue_keyword]
  rfl

theorem ofItems_items (strict : Bool) (h : ∀ o ∈ order, o.1 ≠ "") :
    ofItems strict (order.map fun o => (item o).toValue) = .ok (order.map plain) := by
  induction order with
  | nil => rfl
  | cons o r ih =>
    rw [List.forall_mem_cons] at h
    rw [List.map_cons, ofItems, ofItem_plain h.1, ok_bind, ih h.2]
    rfl

/-- The objects of an order are resolved to the order. -/
theorem resolve_items (strict : Bool) (h : ∀ o ∈ order, o.1 ≠ "") :
    resolve strict (.list (order.map fun o => (item o).toValue)) = .ok (order.map plain) := by
  cases order with
  | nil => rfl
  | cons o r => exact ofItems_items strict h

/-! ## Items without a field -/

/-- An item that was read can be shown. -/
theorem isWritable_entry (e : SortEntry) : e.toValue.isWritable = true := by
  cases e with
  | token s => rfl
  | item i =>
    obtain ⟨field, direction, nullsFirst⟩ := i
    cases field <;> cases direction <;> cases nullsFirst <;> rfl

theorem skipItem_of_isWritable {v : Value} (h : v.isWritable = true) (strict : Bool) :
    skipItem strict v = if strict then reject (.malformed (.sortItem v)) else .ok () := by
  have hshown : checkWritable [v] = .ok () := by simp [checkWritable, Value.allWritable, h]
  rw [skipItem, hshown]
  rfl

end PagedSelect.SortField
