import PagedSelect.Proofs.Request.Wire
import PagedSelect.Proofs.Sort
/-!
# An order that was read

A sort value may be resolved as it was given, or be read as a part of a request first, where its objects turn
into records of their own.  Either way it asks for the same fields in the same directions, or it is rejected
either way.  The one difference is in what is not read: an item without a field is shown in a message, and only
as it was given it may hold a number that is too long for that.
-/

namespace PagedSelect

open Reading

/-! ## Values without bytes -/

namespace Value

mutual

/-- A value that holds no byte string, as all that JSON can write. -/
def isByteFree : Value → Bool
  | bytes _ => false
  | list items | tuple items => areByteFree items
  | map members | record _ members => membersByteFree members
  | _ => true

def areByteFree : List Value → Bool
  | [] => true
  | v :: r => v.isByteFree && areByteFree r

def membersByteFree : Members → Bool
  | [] => true
  | (_, v) :: r => v.isByteFree && membersByteFree r

end

theorem isByteFree_of_get? {m : Members} {key : String} {v : Value} (hm : membersByteFree m = true)
    (h : Keyed.get? key m = some v) : v.isByteFree = true := by
  induction m with
  | nil => cases h
  | cons e r ih =>
    obtain ⟨he, hr⟩ := Bool.and_eq_true_iff.1 hm
    rw [Keyed.get?] at h
    split at h
    · cases h
      exact he
    · exact ih hr h

end Value

/-- Without bytes, a text member is read as what stands there, or null. -/
theorem getD_of_maybe_text {m : Members} {name : String} {s? : Option String} (hm : Value.membersByteFree m = true)
    (h : maybe m [name] text = .ok s?) : (Keyed.get? name m).getD .null = .ofOption .text s? := by
  rw [maybe, member_eq_ok, List.findSome?_cons] at h
  cases hv : Keyed.get? name m with
  | none =>
    rw [hv] at h
    cases h
    rfl
  | some v =>
    rw [hv] at h
    cases v with
    | null =>
      cases h
      rfl
    | text s =>
      cases h
      rfl
    | bytes b =>
      have hfree := Value.isByteFree_of_get? hm hv
      cases hfree
    | _ => cases h

namespace SortField

/-! ## Items -/

/-- What a resolved field asks for. -/
def asked (f : SortField) : String × Direction := (f.field, f.direction)

/-- Members ask for a field in a direction, if they name one. -/
theorem ofMembers_asked {m : Members} {field direction : Option String}
    (hfield : (Keyed.get? "field" m).getD .null = .ofOption .text field)
    (hdirection : (Keyed.get? "direction" m).getD .null = .ofOption .text direction) :
    ∃ f?, ofMembers m = .ok f? ∧ f?.map asked
      = (field.filter (· ≠ "")).map fun name => (name, Direction.ofValue (.ofOption .text direction)) := by
  have hmembers : ofMembers m = if (Value.ofOption Value.text field).isGiven then do
        return some {
          field := ← (Value.ofOption Value.text field).written
          direction := Direction.ofValue (.ofOption .text direction)
          nullsFirst := ((Keyed.get? "nulls_first" m).or (Keyed.get? "nullsFirst" m)).getD .null }
      else .ok none := by
    rw [← hfield, ← hdirection, ofMembers]
    cases Keyed.get? "field" m <;> rfl
  rw [hmembers]
  cases field with
  | none => exact ⟨none, rfl, rfl⟩
  | some name =>
    by_cases hname : name = ""
    · subst hname
      exact ⟨none, rfl, rfl⟩
    · have hgiven : (Value.ofOption Value.text (some name)).isGiven = true := by
        simpa [Value.ofOption, Value.isGiven] using hname
      have hkept : (some name).filter (· ≠ "") = some name := by simp [Option.filter, hname]
      rw [if_pos hgiven, hkept]
      exact ⟨_, rfl, rfl⟩

/-- An item that was read asks for what it asked for as it was given. -/
theorem ofItem_read {v : Value} {e : SortEntry} (hv : v.isByteFree = true) (h : SortEntry.ofValue v = .ok e) :
    ∃ f? f?', ofItem e.toValue = .ok f? ∧ ofItem v = .ok f?' ∧ f?.map asked = f?'.map asked := by
  have object {m : Members} {i : SortItem} (hm : Value.membersByteFree m = true) (hi : SortItem.ofMembers m = .ok i) :
      ∃ f? f?', ofItem i.toValue = .ok f? ∧ ofMembers m = .ok f?' ∧ f?.map asked = f?'.map asked := by
    obtain ⟨hfield, hdirection, -⟩ := SortItem.ofMembers_eq_ok.1 hi
    obtain ⟨f?', hf', hasked'⟩ := ofMembers_asked (getD_of_maybe_text hm hfield) (getD_of_maybe_text hm hdirection)
    obtain ⟨f?, hf, hasked⟩ := ofMembers_asked (m := [("field", .ofOption .text i.field),
      ("direction", .ofOption .text i.direction), ("nulls_first", .ofOption .bool i.nullsFirst)]) rfl rfl
    exact ⟨f?, f?', hf, hf', hasked.trans hasked'.symm⟩
  cases v with
  | text t =>
    cases h
    exact ⟨_, _, rfl, rfl, rfl⟩
  | bytes b => cases hv
  | map m =>
    obtain ⟨i, hi, rfl⟩ := SortEntry.ofValue_map.1 h
    exact object hv hi
  | record name m =>
    by_cases hname : name = SortItem.recordName
    · have hitem : SortItem.ofValue (.record name m) = SortItem.ofMembers m := if_pos hname
      have hread : SortEntry.ofValue (.record name m) = SortEntry.ofValue (.map m) := by
        rw [SortEntry.ofValue, hitem]
        rfl
      rw [hread] at h
      obtain ⟨i, hi, rfl⟩ := SortEntry.ofValue_map.1 h
      exact object hv hi
    · have hread : SortItem.ofValue (.record name m) = fail (.notRecord SortItem.recordName) := if_neg hname
      rw [SortEntry.ofValue, hread] at h
      cases h
  | _ => cases h

/-! ## Orders -/

/-- Two outcomes that ask for the same order, or that both reject what was given as malformed. -/
inductive SameOrder : Outcome (List SortField) → Outcome (List SortField) → Prop
  | ok {fields fields' : List SortField} (h : fields.map asked = fields'.map asked) :
      SameOrder (.ok fields) (.ok fields')
  | malformed (fault fault' : RequestFault) :
      SameOrder (reject (.malformed fault)) (reject (.malformed fault'))

theorem SameOrder.refl_ok (fields : List SortField) : SameOrder (.ok fields) (.ok fields) := .ok rfl

theorem SameOrder.cons {f f' : SortField} {rest rest' : Outcome (List SortField)} (h : f.asked = f'.asked)
    (hrest : SameOrder rest rest') : SameOrder (do return f :: (← rest)) (do return f' :: (← rest')) := by
  cases hrest with
  | ok hfields => exact .ok (by rw [List.map_cons, List.map_cons, h, hfields])
  | malformed fault fault' => exact .malformed fault fault'

/-- An item without a field that cannot be shown. -/
structure IsUnshown (item : Value) : Prop where
  noField : ofItem item = .ok none
  tooLong : item.isWritable = false

/-- Items that were read ask for the order that they asked for as they were given, unless one of these cannot be
shown. -/
theorem ofItems_read (strict : Bool) {vs : List Value} {es : List SortEntry} {i : Nat}
    (hvs : Value.areByteFree vs = true) (h : itemsFrom SortEntry.ofValue i vs = .ok es) :
    SameOrder (ofItems strict (es.map SortEntry.toValue)) (ofItems strict vs) ∨
      ofItems strict vs = .error .tooLongToWrite ∧ ∃ v ∈ vs, IsUnshown v := by
  induction vs generalizing es i with
  | nil =>
    cases h
    exact .inl (.refl_ok [])
  | cons v r ih =>
    obtain ⟨hv, hr⟩ := Bool.and_eq_true_iff.1 hvs
    simp only [itemsFrom, also_eq_ok, done_eq_ok, under_eq_ok] at h
    obtain ⟨_, ⟨_, rfl, e, he, rfl⟩, es, hes, rfl⟩ := h
    obtain ⟨f?, f?', hf, hf', hasked⟩ := ofItem_read hv he
    have hrest := ih hr hes
    rw [List.map_cons, ofItems, ofItems, hf, hf', ok_bind, ok_bind]
    cases f?' with
    | some f' =>
      obtain ⟨f, rfl, hff'⟩ := Option.map_eq_some_iff.1 hasked
      rcases hrest with hsame | ⟨herror, w, hw, hunshown⟩
      · exact .inl (hsame.cons hff')
      · exact .inr ⟨by simp [herror], w, List.mem_cons_of_mem v hw, hunshown⟩
    | none =>
      -- Neither item names a field: the one that was read can be shown, the other one perhaps not.
      obtain rfl := Option.map_eq_none_iff.1 hasked
      rw [skipItem_of_isWritable (isWritable_entry e)]
      by_cases hshown : v.isWritable = true
      · rw [skipItem_of_isWritable hshown]
        cases strict with
        | true => exact .inl (.malformed _ _)
        | false =>
          rcases hrest with hsame | ⟨herror, w, hw, hunshown⟩
          · exact .inl hsame
          · exact .inr ⟨herror, w, List.mem_cons_of_mem v hw, hunshown⟩
      · have hlong : v.isWritable = false := Bool.eq_false_iff.2 hshown
        have herror : skipItem strict v = .error .tooLongToWrite := by
          simp [skipItem, checkWritable, Value.allWritable, hlong]
        exact .inr ⟨by rw [herror]; rfl, v, List.mem_cons_self, hf', hlong⟩

end SortField

/-! ## Requests -/

open SortField

/-- A list or a tuple is read as its items. -/
theorem SortRequest.ofValue_sequence {v : Value} {vs : List Value} {s : SortRequest} (hv : v.sequence? = some vs)
    (h : ofValue v = .ok s) : ∃ es, itemsFrom SortEntry.ofValue 0 vs = .ok es ∧ s = .entries es := by
  have hlist : ofValue (.list vs) = .ok s := by
    cases v with
    | list items =>
      cases hv
      exact h
    | tuple items =>
      cases hv
      exact h
    | _ => cases hv
  obtain ⟨es, hes, rfl⟩ := ofValue_list.1 hlist
  exact ⟨es, hes, rfl⟩

theorem resolve_sequence (strict : Bool) {v : Value} {vs : List Value} (hv : v.sequence? = some vs) :
    resolve strict v = ofItems strict vs := by
  cases v with
  | list items =>
    cases hv
    cases vs <;> rfl
  | tuple items =>
    cases hv
    cases vs <;> rfl
  | _ => cases hv

/-- A list that is read asks for the same order, unless one of its items cannot be shown. -/
theorem resolve_entries_read (strict : Bool) {v : Value} {vs : List Value} (hv : v.sequence? = some vs)
    (hfree : Value.areByteFree vs = true) {s : SortRequest} (hs : SortRequest.ofValue v = .ok s) :
    SameOrder (resolve strict s.toValue) (resolve strict v) ∨
      resolve strict v = .error .tooLongToWrite ∧ ∃ items item, v.sequence? = some items ∧ item ∈ items ∧
        IsUnshown item := by
  obtain ⟨es, hes, rfl⟩ := SortRequest.ofValue_sequence hv hs
  have htyped : resolve strict (SortRequest.entries es).toValue = ofItems strict (es.map SortEntry.toValue) :=
    resolve_sequence strict rfl
  rw [htyped, resolve_sequence strict hv]
  rcases ofItems_read strict hfree hes with hsame | ⟨herror, item, hitem, hunshown⟩
  · exact .inl hsame
  · exact .inr ⟨herror, vs, item, hv, hitem, hunshown⟩

/-- A sort value that is read with a request asks for the order that it asked for as it was given, or is rejected
as it was, unless it could not even be resolved as it was given: an item without a field could not be shown. -/
theorem QueryRequest.resolve_sortValue {v : Value} (hv : v.isByteFree = true) {r : QueryRequest}
    (h : ofWire (.map [("sort", v)]) = .ok r) (strict : Bool) :
    SameOrder (resolve strict r.sortValue) (resolve strict v) ∨
      resolve strict v = .error .tooLongToWrite ∧ ∃ items item, v.sequence? = some items ∧ item ∈ items ∧
        IsUnshown item := by
  obtain ⟨-, -, -, hsort, -⟩ := ofMembers_eq_ok.1 (ofWire_eq_ok.1 h)
  rw [maybe, member_eq_ok, List.findSome?_cons] at hsort
  change optional SortRequest.ofValue v = .ok r.sort at hsort
  unfold sortValue
  cases v with
  | null =>
    rw [← Except.ok.inj hsort]
    exact .inl (.refl_ok [])
  | map m =>
    rw [← Except.ok.inj hsort]
    cases m <;> exact .inl (.refl_ok _)
  | text t =>
    rw [← Except.ok.inj hsort]
    left
    change SameOrder (resolve strict (.text t)) (resolve strict (.text t))
    unfold resolve
    split <;> exact .refl_ok _
  | bytes b => cases hv
  | list items =>
    obtain ⟨s, hs, hsome⟩ := map_eq_ok.1 hsort
    rw [← hsome]
    exact resolve_entries_read strict rfl hv hs
  | tuple items =>
    obtain ⟨s, hs, hsome⟩ := map_eq_ok.1 hsort
    rw [← hsome]
    exact resolve_entries_read strict rfl hv hs
  | _ => cases hsort

/-- An order by tokens and objects, among them an empty field, members that are not read and an object without a
field. -/
def untidyOrder : Value := .list [
  .text " - name", .map [("field", .text "age"), ("direction", .null), ("weight", .float (.finite false 3 (-1)))],
  .map [("field", .text ""), ("note", .list [.null])], .map [("direction", .text "desc"), ("nullsFirst", .text "yes")]]

theorem untidyOrder_read : ∃ r fields, QueryRequest.ofWire (.map [("sort", untidyOrder)]) = .ok r ∧
    resolve false untidyOrder = .ok fields ∧
    fields.map asked = [("name", .descending), ("age", .ascending)] ∧
    SameOrder (resolve false r.sortValue) (resolve false untidyOrder) ∧
    SameOrder (resolve true r.sortValue) (resolve true untidyOrder) := by
  have hfree : untidyOrder.isByteFree = true := by decide
  have hread : QueryRequest.ofWire (.map [("sort", untidyOrder)]) = .ok _ := rfl
  have hlenient : resolve false untidyOrder = .ok _ := rfl
  have hstrict : resolve true untidyOrder
      = reject (.malformed (.sortItem (.map [("field", .text ""), ("note", .list [.null])]))) := rfl
  refine ⟨_, _, hread, hlenient, by decide, ?_, ?_⟩
  · rcases QueryRequest.resolve_sortValue hfree hread false with hsame | ⟨herror, -⟩
    · exact hsame
    · exact nomatch hlenient.symm.trans herror
  · rcases QueryRequest.resolve_sortValue hfree hread true with hsame | ⟨herror, -⟩
    · exact hsame
    · exact nomatch hstrict.symm.trans herror

/-- An order by an object without a field that holds a number. -/
def sizedOrder (size : Int) : Value := .list [.map [("size", .int size)]]

theorem sizedOrder_fails {size : Int} (h : (Value.int size).isWritable = false) (strict : Bool) :
    resolve strict (sizedOrder size) = .error .tooLongToWrite := by
  have hlong : (Value.map [("size", .int size)]).isWritable = false := by
    rw [Value.isWritable, Value.membersWritable, h, Bool.false_and]
  have hskip : skipItem strict (.map [("size", .int size)]) = .error .tooLongToWrite := by
    simp [skipItem, checkWritable, Value.allWritable, hlong]
  have hitem : ofItem (.map [("size", .int size)]) = .ok none := rfl
  rw [resolve_sequence strict (show (sizedOrder size).sequence? = some [.map [("size", .int size)]] from rfl),
    ofItems, hitem, ok_bind, hskip]
  rfl

/-- Such an object with a number of 4301 digits is passed over when it was read, and fails as it was given. -/
theorem sizedOrder_unshown : (sizedOrder (Int.pow 10 4300)).isByteFree = true ∧
    ∃ r, QueryRequest.ofWire (.map [("sort", sizedOrder (Int.pow 10 4300))]) = .ok r ∧
      resolve false r.sortValue = .ok [] ∧
      resolve false (sizedOrder (Int.pow 10 4300)) = .error .tooLongToWrite ∧
      ¬ SameOrder (resolve false r.sortValue) (resolve false (sizedOrder (Int.pow 10 4300))) := by
  have hread (size : Int) : QueryRequest.ofWire (.map [("sort", sizedOrder size)])
      = .ok { sort := some (.entries [.item {}]) } := rfl
  -- Left to the kernel, which has fast arithmetic for a number of this size.
  have hlong : (Value.int (Int.pow 10 4300)).isWritable = false := by decide +kernel
  have herror := sizedOrder_fails hlong false
  refine ⟨rfl, _, hread _, rfl, herror, ?_⟩
  rw [herror]
  exact nofun

end PagedSelect
