import PagedSelect.Proofs.Keyed
import PagedSelect.Proofs.Outcome
import PagedSelect.Request.Wire
/-!
# Laws of readings

A reading succeeds exactly if each of its parts does, and where it stands in a value makes no
difference to that.
-/

namespace PagedSelect.Reading

variable {α β : Type}

/-! ## Combinations -/

@[simp] theorem done_eq_ok {a b : α} : (done a : Reading α) = .ok b ↔ a = b := by
  simp [done]

@[simp] theorem fail_ne_ok {fault : Fault} {a : α} : (fail fault : Reading α) ≠ .ok a := nofun

@[simp] theorem also_eq_ok {f : Reading (α → β)} {r : Reading α} {b : β} :
    f.also r = .ok b ↔ ∃ g, f = .ok g ∧ ∃ a, r = .ok a ∧ g a = b := by
  cases f with
  | error d => cases r <;> simp [also]
  | ok g => cases r <;> simp [also]

@[simp] theorem under_eq_ok {r : Reading α} {step : PathStep} {a : α} : r.under step = .ok a ↔ r = .ok a := by
  cases r with
  | error d => exact iff_of_false nofun nofun
  | ok b => exact Iff.rfl

/-- The other ways are tried exactly if the first one fails. -/
theorem firstOf_cons_eq_ok {name : String} {r : Reading α} {others : List (String × Reading α)} {a : α} :
    firstOf ((name, r) :: others) = .ok a ↔ r = .ok a ∨ (∃ d, r = .error d) ∧ firstOf others = .ok a := by
  cases r with
  | ok b =>
    change Except.ok b = .ok a ↔ _
    simp
  | error d =>
    change (firstOf others).mapError ((d.map (Issue.under (.key name))) ++ ·) = .ok a ↔ _
    cases h : firstOf others with
    | error e => exact iff_of_false nofun nofun
    | ok b =>
      change Except.ok b = .ok a ↔ _
      simp

theorem firstOf_of_ok {name : String} {r : Reading α} {a : α} (h : r = .ok a) (others : List (String × Reading α)) :
    firstOf ((name, r) :: others) = .ok a :=
  firstOf_cons_eq_ok.2 (.inl h)

/-! ## Lists -/

/-- A list is read as what its items were written for. -/
theorem list_map {read : Value → Reading α} {write : β → Value} {meant : β → α} {items : List β}
    (h : ∀ b ∈ items, read (write b) = .ok (meant b)) :
    list read (.list (items.map write)) = .ok (items.map meant) := by
  have from_index (i : Nat) : itemsFrom read i (items.map write) = .ok (items.map meant) := by
    induction items generalizing i with
    | nil => rfl
    | cons b r ih =>
      rw [List.forall_mem_cons] at h
      simp [itemsFrom, h.1, ih h.2]
  exact from_index 0

theorem list_ofTexts (ss : List String) : list text (Value.ofTexts ss) = .ok ss := by
  have h : list text (Value.ofTexts ss) = .ok (ss.map id) := list_map fun _ _ => rfl
  rwa [List.map_id] at h

/-- A list whose items are changed so that they are read as before is read as before. -/
theorem itemsFrom_of_same {read : Value → Reading α} {change : Value → Value} {i : Nat} {vs : List Value}
    {items : List α} (hsame : ∀ v ∈ vs, ∀ a, read v = .ok a → read (change v) = .ok a)
    (h : itemsFrom read i vs = .ok items) : itemsFrom read i (vs.map change) = .ok items := by
  induction vs generalizing i items with
  | nil => exact h
  | cons v r ih =>
    rw [List.forall_mem_cons] at hsame
    simp only [itemsFrom, also_eq_ok, done_eq_ok, under_eq_ok, List.map_cons] at h ⊢
    obtain ⟨_, ⟨_, rfl, a, ha, rfl⟩, as, has, rfl⟩ := h
    exact ⟨_, ⟨_, rfl, a, hsame.1 a ha, rfl⟩, as, ih hsame.2 has, rfl⟩

/-! ## Members -/

theorem members_eq_ok {v : Value} {m : Members} : members v = .ok m ↔ v = .map m := by
  cases v <;> simp [members]

theorem optional_of_not_null {read : Value → Reading α} {v : Value} (h : v.isNull = false) :
    optional read v = (read v).map some := by
  cases v with
  | null => cases h
  | _ => rfl

/-- A member is read from what stands under the first of its spellings that is present. -/
theorem member_eq_ok {m : Members} {spellings : List String} {absent : Reading α} {read : Value → Reading α}
    {a : α} : member m spellings absent read = .ok a ↔
      ((spellings.findSome? (Keyed.get? · m)).elim absent read) = .ok a := by
  have hvalue : spellings.findSome? (Keyed.get? · m) =
      (spellings.findSome? fun name => (Keyed.get? name m).map fun v => (name, v)).map (·.2) := by
    rw [List.map_findSome?]
    simp [Function.comp_def]
  rw [hvalue, member]
  cases spellings.findSome? fun name => (Keyed.get? name m).map fun v => (name, v) with
  | none => simp
  | some e => simp

/-- A member with a value stands under its name and is not null. -/
theorem maybe_eq_some {m : Members} {name : String} {read : Value → Reading α} {a : α} :
    maybe m [name] read = .ok (some a) ↔ ∃ v, Keyed.get? name m = some v ∧ v.isNull = false ∧ read v = .ok a := by
  rw [maybe, member_eq_ok]
  cases h : Keyed.get? name m with
  | none => simp [h]
  | some v =>
    cases hv : v.isNull with
    | true =>
      cases v with
      | null => simp [h, optional, Value.isNull]
      | _ => cases hv
    | false => simp [h, hv, optional_of_not_null hv, map_eq_ok]

/-- A member with a value is read from one of the members, under one of its spellings. -/
theorem mem_of_maybe {m : Members} {spellings : List String} {read : Value → Reading α} {a : α}
    (h : maybe m spellings read = .ok (some a)) : ∃ name v, (name, v) ∈ m ∧ read v = .ok a := by
  rw [maybe, member_eq_ok] at h
  cases hv : spellings.findSome? (Keyed.get? · m) with
  | none =>
    rw [hv] at h
    cases h
  | some v =>
    obtain ⟨name, -, hname⟩ := List.exists_of_findSome?_eq_some hv
    rw [hv, Option.elim_some] at h
    cases hnull : v.isNull with
    | true =>
      cases v with
      | null => cases h
      | _ => cases hnull
    | false =>
      rw [optional_of_not_null hnull] at h
      obtain ⟨a', ha, heq⟩ := map_eq_ok.1 h
      cases heq
      exact ⟨name, v, mem_of_get? hname, ha⟩

end PagedSelect.Reading

namespace PagedSelect

open Reading

variable {α β : Type}

/-! ## Written members -/

theorem keys_wireMember (name : String) (write : α → Value) (a? : Option α) :
    (Keyed.keys (wireMember name write a?)).Sublist [name] := by
  cases a? with
  | none => exact List.nil_sublist _
  | some a => exact List.Sublist.refl _

@[simp] theorem get?_wireMember (key name : String) (write : α → Value) (a? : Option α) :
    Keyed.get? key (wireMember name write a?) = if name = key then a?.map write else none := by
  cases a? <;> simp [wireMember, Keyed.get?]

/-- A member that was written under its first spelling only is read as what it was written for. -/
theorem maybe_of_get? {m : Members} {name : String} {others : List String} (write : β → Value) {b? : Option β}
    {read : Value → Reading α} {meant : β → α} (h : Keyed.get? name m = b?.map write)
    (hothers : ∀ n ∈ others, Keyed.get? n m = none)
    (hread : ∀ b ∈ b?, optional read (write b) = .ok (some (meant b))) :
    maybe m (name :: others) read = .ok (b?.map meant) := by
  refine member_eq_ok.2 ?_
  cases b? with
  | none =>
    rw [List.findSome?_cons, h, Option.map_none, List.findSome?_eq_none_iff.2 hothers]
    rfl
  | some b =>
    rw [List.findSome?_cons, h]
    exact hread b rfl

/-- A member that was written so that it is read back is read back. -/
theorem maybe_written {m : Members} {name : String} {others : List String} (write : α → Value) {a? : Option α}
    {read : Value → Reading α} (h : Keyed.get? name m = a?.map write) (hothers : ∀ n ∈ others, Keyed.get? n m = none)
    (hread : ∀ a ∈ a?, optional read (write a) = .ok (some a)) : maybe m (name :: others) read = .ok a? := by
  have hback : maybe m (name :: others) read = .ok (a?.map id) := maybe_of_get? write h hothers hread
  rwa [Option.map_id] at hback

/-- A member that is present is read as what its value stands for. -/
theorem maybe_of_value {m : Members} {name : String} {others : List String} {v : Value}
    {read : Value → Reading α} {a : α} (h : Keyed.get? name m = some v) (hread : optional read v = .ok (some a)) :
    maybe m (name :: others) read = .ok (some a) := by
  refine member_eq_ok.2 ?_
  rw [List.findSome?_cons, h]
  exact hread

theorem optional_ofTexts (ss : List String) : optional (list text) (.ofTexts ss) = .ok (some ss) := by
  change (list text (.ofTexts ss)).map some = _
  rw [list_ofTexts]
  rfl

/-! ## Other spellings -/

/-- A member under either of two names is read the same under the other, if it is not there under both. -/
theorem maybe_renamed {m : Members} {old new : String} {read : Value → Reading α} {a? : Option α} (hne : old ≠ new)
    (hone : ¬ (old ∈ Keyed.keys m ∧ new ∈ Keyed.keys m)) :
    maybe (Keyed.renamed old new m) [old, new] read = .ok a? ↔ maybe m [old, new] read = .ok a? := by
  rw [maybe, maybe, member_eq_ok, member_eq_ok, findSome?_renamed hne hone]

theorem maybe_renamed_other {m : Members} {old new name : String} {read : Value → Reading α} {a? : Option α}
    (hold : name ≠ old) (hnew : name ≠ new) :
    maybe (Keyed.renamed old new m) [name] read = .ok a? ↔ maybe m [name] read = .ok a? := by
  rw [maybe, maybe, member_eq_ok, member_eq_ok, List.findSome?_cons, List.findSome?_cons, get?_renamed hold hnew]
  rfl

theorem optional_of_same {read : Value → Reading α} {v v' : Value} {a? : Option α} (hnull : v'.isNull = v.isNull)
    (hsame : ∀ a, read v = .ok a → read v' = .ok a) (h : optional read v = .ok a?) : optional read v' = .ok a? := by
  cases hv : v.isNull with
  | false =>
    rw [optional_of_not_null hv, map_eq_ok] at h
    obtain ⟨a, ha, rfl⟩ := h
    rw [optional_of_not_null (hnull.trans hv), hsame a ha]
    rfl
  | true =>
    have eq_null {u : Value} (hu : u.isNull = true) : u = .null := by
      cases u with
      | null => rfl
      | _ => cases hu
    rw [eq_null hv] at h
    rw [eq_null (hnull.trans hv)]
    exact h

/-- A member whose value is changed so that it is read as before is read as before. -/
theorem maybe_of_same {m m' : Members} {name : String} {read : Value → Reading α} {change : Value → Value}
    {a? : Option α} (hget : Keyed.get? name m' = (Keyed.get? name m).map change)
    (hnull : ∀ v, (change v).isNull = v.isNull)
    (hsame : ∀ v, Keyed.get? name m = some v → ∀ a, read v = .ok a → read (change v) = .ok a)
    (h : maybe m [name] read = .ok a?) : maybe m' [name] read = .ok a? := by
  rw [maybe, member_eq_ok, List.findSome?_cons] at h ⊢
  rw [hget]
  cases hv : Keyed.get? name m with
  | none =>
    rw [hv] at h
    exact h
  | some v =>
    rw [hv] at h
    exact optional_of_same (hnull v) (hsame v hv) h

/-! ## Parts of a request -/

theorem SearchSpec.ofMembers_eq_ok {m : Members} {s : SearchSpec} :
    ofMembers m = .ok s ↔ maybe m ["field"] text = .ok s.field ∧ maybe m ["fields"] (list text) = .ok s.fields ∧
      maybe m ["term"] text = .ok s.term ∧ member m ["exact"] (done false) flag = .ok s.exact := by
  constructor
  · intro h
    simp only [ofMembers, also_eq_ok, done_eq_ok] at h
    obtain ⟨_, ⟨_, ⟨_, ⟨_, rfl, field, hfield, rfl⟩, fields, hfields, rfl⟩, term, hterm, rfl⟩, exact, hexact, rfl⟩ := h
    exact ⟨hfield, hfields, hterm, hexact⟩
  · rintro ⟨hfield, hfields, hterm, hexact⟩
    rw [ofMembers, hfield, hfields, hterm, hexact]
    rfl

theorem SortItem.ofMembers_eq_ok {m : Members} {i : SortItem} :
    ofMembers m = .ok i ↔ maybe m ["field"] text = .ok i.field ∧ maybe m ["direction"] text = .ok i.direction ∧
      maybe m ["nullsFirst", "nulls_first"] flag = .ok i.nullsFirst := by
  constructor
  · intro h
    simp only [ofMembers, also_eq_ok, done_eq_ok] at h
    obtain ⟨_, ⟨_, ⟨_, rfl, field, hfield, rfl⟩, direction, hdirection, rfl⟩, nulls, hnulls, rfl⟩ := h
    exact ⟨hfield, hdirection, hnulls⟩
  · rintro ⟨hfield, hdirection, hnulls⟩
    rw [ofMembers, hfield, hdirection, hnulls]
    rfl

theorem PageSpec.ofMembers_eq_ok {m : Members} {s : PageSpec} :
    ofMembers m = .ok s ↔ maybe m ["page"] whole = .ok s.page ∧
      maybe m ["pageSize", "page_size"] whole = .ok s.pageSize ∧ maybe m ["offset"] whole = .ok s.offset ∧
      maybe m ["limit"] whole = .ok s.limit := by
  constructor
  · intro h
    simp only [ofMembers, also_eq_ok, done_eq_ok] at h
    obtain ⟨_, ⟨_, ⟨_, ⟨_, rfl, page, hpage, rfl⟩, size, hsize, rfl⟩, offset, hoffset, rfl⟩, limit, hlimit, rfl⟩ := h
    exact ⟨hpage, hsize, hoffset, hlimit⟩
  · rintro ⟨hpage, hsize, hoffset, hlimit⟩
    rw [ofMembers, hpage, hsize, hoffset, hlimit]
    rfl

theorem QueryRequest.ofMembers_eq_ok {m : Members} {r : QueryRequest} :
    ofMembers m = .ok r ↔ maybe m ["fields"] (list text) = .ok r.fields ∧
      maybe m ["filters"] Reading.members = .ok r.filters ∧ maybe m ["search"] SearchSpec.ofValue = .ok r.search ∧
      maybe m ["sort"] SortRequest.ofValue = .ok r.sort ∧
      maybe m ["pagination"] PageSpec.ofValue = .ok r.pagination := by
  constructor
  · intro h
    simp only [ofMembers, also_eq_ok, done_eq_ok] at h
    obtain ⟨_, ⟨_, ⟨_, ⟨_, ⟨_, rfl, fields, hfields, rfl⟩, filters, hfilters, rfl⟩, search, hsearch, rfl⟩,
      sort, hsort, rfl⟩, page, hpage, rfl⟩ := h
    exact ⟨hfields, hfilters, hsearch, hsort, hpage⟩
  · rintro ⟨hfields, hfilters, hsearch, hsort, hpage⟩
    rw [ofMembers, hfields, hfilters, hsearch, hsort, hpage]
    rfl

/-- A request is read from a map exactly if its members are. -/
theorem QueryRequest.ofWire_eq_ok {m : Members} {r : QueryRequest} :
    ofWire (.map m) = .ok r ↔ ofMembers m = .ok r := by
  cases h : ofMembers m with
  | error issues => simp [ofWire, h, reject]
  | ok r' => simp [ofWire, h]

end PagedSelect
