import PagedSelect.Proofs.Request.Reading
import PagedSelect.Proofs.Value.Json
/-!
# Requests written back

A request that came from JSON is written so that it is read back as it was: what is missing is left out,
and a null that means something is not.  Either spelling of a member gives the same request.
-/

namespace PagedSelect

open Reading

/-! ## Parts written back -/

theorem SearchSpec.ofValue_toWire (s : SearchSpec) : ofValue s.toWire = .ok s := by
  refine ofMembers_eq_ok.2 ⟨maybe_written .text ?_ (by simp) fun _ _ => rfl,
    maybe_written .ofTexts ?_ (by simp) fun ss _ => optional_ofTexts ss,
    maybe_written .text ?_ (by simp) fun _ _ => rfl, member_eq_ok.2 ?_⟩
  all_goals simp [get?_append, Keyed.get?, flag]

theorem PageSpec.ofValue_toWire (s : PageSpec) : ofValue s.toWire = .ok s := by
  refine ofMembers_eq_ok.2 ⟨maybe_written .int ?_ (by simp) fun _ _ => rfl,
    maybe_written .int ?_ ?_ fun _ _ => rfl, maybe_written .int ?_ (by simp) fun _ _ => rfl,
    maybe_written .int ?_ (by simp) fun _ _ => rfl⟩
  all_goals simp [get?_append]

/-- The members of a sort item on the wire: a record without what is missing. -/
def SortItem.wireMembers (i : SortItem) : Members :=
  wireMember "field" .text i.field ++ wireMember "direction" .text i.direction
    ++ wireMember "nullsFirst" .bool i.nullsFirst

theorem SortItem.opened_toValue (i : SortItem) : i.toValue.opened = .map i.wireMembers := by
  have hcamel : Text.camel "field" = "field" ∧ Text.camel "direction" = "direction" ∧
      Text.camel "nulls_first" = "nullsFirst" := by decide
  obtain ⟨field, direction, nullsFirst⟩ := i
  cases field <;> cases direction <;> cases nullsFirst <;>
    simp [toValue, wireMembers, wireMember, Value.opened, Value.openedFields, Value.ofOption, Value.isNull, hcamel]

theorem SortItem.ofMembers_wireMembers (i : SortItem) : ofMembers i.wireMembers = .ok i := by
  refine ofMembers_eq_ok.2 ⟨maybe_written .text ?_ (by simp) fun _ _ => rfl,
    maybe_written .text ?_ (by simp) fun _ _ => rfl, maybe_written .bool ?_ ?_ fun _ _ => rfl⟩
  all_goals simp [wireMembers, get?_append]

theorem SortEntry.ofValue_opened (e : SortEntry) : ofValue e.toValue.opened = .ok e := by
  cases e with
  | token s => rfl
  | item i =>
    refine firstOf_of_ok ?_ _
    rw [toValue, SortItem.opened_toValue]
    exact map_eq_ok.2 ⟨i, SortItem.ofMembers_wireMembers i, rfl⟩

/-- A list of entries is read as such: it is neither a map nor a text. -/
theorem SortRequest.ofValue_list {vs : List Value} {s : SortRequest} :
    ofValue (.list vs) = .ok s ↔ ∃ es, list SortEntry.ofValue (.list vs) = .ok es ∧ entries es = s := by
  have hmap : (Reading.members (.list vs)).map map = .error [⟨[], .notMap⟩] := rfl
  have htext : firstOf [("str", (text (.list vs)).map tokens)] = .error [⟨[.key "str"], .notText⟩] := rfl
  rw [ofValue, firstOf_cons_eq_ok, firstOf_cons_eq_ok, map_eq_ok (f := entries), hmap, htext]
  simp

theorem SortRequest.ofValue_opened {s : SortRequest} (h : ∀ m, s = .map m → Value.holdJson m = true) :
    ofValue s.toValue.opened = .ok s := by
  cases s with
  | map m =>
    rw [toValue, Value.opened, Value.openedMembers_of_holdJson m (h m rfl)]
    exact firstOf_of_ok rfl _
  | entries es =>
    rw [toValue, Value.opened, Value.openedItems_eq_map, List.map_map, ofValue_list]
    have hes : list SortEntry.ofValue (.list (es.map (Value.opened ∘ SortEntry.toValue))) = .ok (es.map id) :=
      list_map fun e _ => SortEntry.ofValue_opened e
    exact ⟨es, by rw [hes, List.map_id], rfl⟩
  | tokens s => rfl

/-- Only a map is read as one. -/
theorem SortRequest.eq_map_of_ofValue {v : Value} {m : Members} (h : ofValue v = .ok (.map m)) : v = .map m := by
  rw [ofValue, firstOf_cons_eq_ok, firstOf_cons_eq_ok, firstOf_cons_eq_ok, map_eq_ok, map_eq_ok,
    map_eq_ok] at h
  rcases h with ⟨_, hm, hmap⟩ | ⟨-, ⟨_, -, hentries⟩ | ⟨-, ⟨_, -, htokens⟩ | ⟨-, hnone⟩⟩⟩
  · cases hmap
    exact members_eq_ok.1 hm
  · cases hentries
  · cases htokens
  · cases hnone

/-! ## Requests written back -/

/-- What a request keeps as it was given holds JSON. -/
structure QueryRequest.HoldsJson (r : QueryRequest) : Prop where
  filters : ∀ m, r.filters = some m → Value.holdJson m = true
  sort : ∀ m, r.sort = some (.map m) → Value.holdJson m = true

theorem QueryRequest.holdsJson_of_ofWire {d : Members} (hd : Value.holdJson d = true) {r : QueryRequest}
    (h : ofWire (.map d) = .ok r) : r.HoldsJson := by
  obtain ⟨-, hfilters, -, hsort, -⟩ := ofMembers_eq_ok.1 (ofWire_eq_ok.1 h)
  constructor
  · intro m hm
    rw [hm] at hfilters
    obtain ⟨v, hv, -, hread⟩ := maybe_eq_some.1 hfilters
    rw [members_eq_ok.1 hread] at hv
    exact Value.isJson_of_get? hd hv
  · intro m hm
    rw [hm] at hsort
    obtain ⟨v, hv, -, hread⟩ := maybe_eq_some.1 hsort
    rw [SortRequest.eq_map_of_ofValue hread] at hv
    exact Value.isJson_of_get? hd hv

theorem SortRequest.opened_not_null (s : SortRequest) : s.toValue.opened.isNull = false := by
  cases s <;> rfl

theorem QueryRequest.ofWire_written {r : QueryRequest} (h : r.HoldsJson) : ofWire r.toWire = .ok r := by
  refine ofWire_eq_ok.2 (ofMembers_eq_ok.2 ⟨?fields, ?filters, ?search, ?sort, ?pagination⟩)
  case fields =>
    exact maybe_written .ofTexts (by simp [get?_append]) (by simp) fun ss _ => optional_ofTexts ss
  case filters =>
    refine maybe_written (fun m => (Value.map m).opened) (by simp [get?_append]) (by simp) fun m hm => ?_
    rw [Value.opened, Value.openedMembers_of_holdJson m (h.filters m hm)]
    rfl
  case search =>
    refine maybe_written SearchSpec.toWire (by simp [get?_append]) (by simp) fun s _ => ?_
    rw [optional_of_not_null rfl, SearchSpec.ofValue_toWire]
    rfl
  case sort =>
    refine maybe_written (fun s => s.toValue.opened) (by simp [get?_append]) (by simp) fun s hs => ?_
    rw [optional_of_not_null s.opened_not_null, SortRequest.ofValue_opened fun m hm => h.sort m (hm ▸ hs)]
    rfl
  case pagination =>
    refine maybe_written PageSpec.toWire (by simp [get?_append]) (by simp) fun s _ => ?_
    rw [optional_of_not_null rfl, PageSpec.ofValue_toWire]
    rfl

/-! ## Snake case -/

/-- A page with its size in snake case. -/
def Value.snakePage : Value → Value
  | map m => map (Keyed.renamed "pageSize" "page_size" m)
  | v => v

/-- A sort item with the place of nulls in snake case. -/
def Value.snakeItem : Value → Value
  | map m => map (Keyed.renamed "nullsFirst" "nulls_first" m)
  | v => v

/-- An order with its items in snake case. -/
def Value.snakeOrder : Value → Value
  | list items => list (items.map snakeItem)
  | v => v

/-- A member of a request with its own members in snake case. -/
def snakeMember (name : String) (v : Value) : Value :=
  if name = "pagination" then v.snakePage else if name = "sort" then v.snakeOrder else v

/-- A request with its page and its sort items in snake case. -/
def snakeRequest (d : Members) : Members := d.map fun e => (e.1, snakeMember e.1 e.2)

/-- A page and sort items that spell no member in both ways. -/
structure SpeltOneWay (d : Members) : Prop where
  page : ∀ m, Keyed.get? "pagination" d = some (.map m) →
    ¬ ("pageSize" ∈ Keyed.keys m ∧ "page_size" ∈ Keyed.keys m)
  items : ∀ vs, Keyed.get? "sort" d = some (.list vs) → ∀ m, .map m ∈ vs →
    ¬ ("nullsFirst" ∈ Keyed.keys m ∧ "nulls_first" ∈ Keyed.keys m)

theorem PageSpec.ofMembers_renamed {m : Members} {s : PageSpec}
    (hone : ¬ ("pageSize" ∈ Keyed.keys m ∧ "page_size" ∈ Keyed.keys m)) :
    ofMembers (Keyed.renamed "pageSize" "page_size" m) = .ok s ↔ ofMembers m = .ok s := by
  rw [ofMembers_eq_ok, ofMembers_eq_ok, maybe_renamed (by decide) hone, maybe_renamed_other (by decide) (by decide),
    maybe_renamed_other (by decide) (by decide), maybe_renamed_other (by decide) (by decide)]

theorem SortItem.ofMembers_renamed {m : Members} {i : SortItem}
    (hone : ¬ ("nullsFirst" ∈ Keyed.keys m ∧ "nulls_first" ∈ Keyed.keys m)) :
    ofMembers (Keyed.renamed "nullsFirst" "nulls_first" m) = .ok i ↔ ofMembers m = .ok i := by
  rw [ofMembers_eq_ok, ofMembers_eq_ok, maybe_renamed (by decide) hone, maybe_renamed_other (by decide) (by decide),
    maybe_renamed_other (by decide) (by decide)]

theorem SortEntry.ofValue_map {m : Members} {e : SortEntry} :
    ofValue (.map m) = .ok e ↔ ∃ i, SortItem.ofMembers m = .ok i ∧ item i = e := by
  have htext : firstOf [("str", (text (.map m)).map token)] = .error [⟨[.key "str"], .notText⟩] := rfl
  rw [ofValue, firstOf_cons_eq_ok, htext, map_eq_ok]
  simp [SortItem.ofValue, record]

theorem SortEntry.ofValue_snake {v : Value} {e : SortEntry}
    (hone : ∀ m, v = .map m → ¬ ("nullsFirst" ∈ Keyed.keys m ∧ "nulls_first" ∈ Keyed.keys m))
    (h : ofValue v = .ok e) : ofValue v.snakeItem = .ok e := by
  cases v with
  | map m =>
    obtain ⟨i, hi, rfl⟩ := ofValue_map.1 h
    exact ofValue_map.2 ⟨i, (SortItem.ofMembers_renamed (hone m rfl)).2 hi, rfl⟩
  | _ => exact h

theorem SortRequest.ofValue_snake {v : Value} {s : SortRequest}
    (hone : ∀ vs, v = .list vs → ∀ m, .map m ∈ vs → ¬ ("nullsFirst" ∈ Keyed.keys m ∧ "nulls_first" ∈ Keyed.keys m))
    (h : ofValue v = .ok s) : ofValue v.snakeOrder = .ok s := by
  cases v with
  | list vs =>
    obtain ⟨es, hes, rfl⟩ := ofValue_list.1 h
    refine ofValue_list.2 ⟨es, ?_, rfl⟩
    exact itemsFrom_of_same (fun v hv e he => SortEntry.ofValue_snake (fun m hm => hone vs rfl m (hm ▸ hv)) he) hes
  | _ => exact h

theorem PageSpec.ofValue_snake {v : Value} {s : PageSpec}
    (hone : ∀ m, v = .map m → ¬ ("pageSize" ∈ Keyed.keys m ∧ "page_size" ∈ Keyed.keys m))
    (h : ofValue v = .ok s) : ofValue v.snakePage = .ok s := by
  cases v with
  | map m => exact (ofMembers_renamed (hone m rfl)).2 h
  | _ => exact h

theorem snakePage_isNull (v : Value) : v.snakePage.isNull = v.isNull := by
  cases v <;> rfl

theorem snakeOrder_isNull (v : Value) : v.snakeOrder.isNull = v.isNull := by
  cases v <;> rfl

/-- A request in snake case is the same request. -/
theorem QueryRequest.ofWire_snake {d : Members} (hone : SpeltOneWay d) {r : QueryRequest}
    (h : ofWire (.map d) = .ok r) : ofWire (.map (snakeRequest d)) = .ok r := by
  have hget (key : String) : Keyed.get? key (snakeRequest d) = (Keyed.get? key d).map (snakeMember key) :=
    get?_mapValues snakeMember key d
  obtain ⟨hfields, hfilters, hsearch, hsort, hpage⟩ := ofMembers_eq_ok.1 (ofWire_eq_ok.1 h)
  refine ofWire_eq_ok.2 (ofMembers_eq_ok.2 ⟨?fields, ?filters, ?search, ?sort, ?pagination⟩)
  case fields => exact maybe_of_same (hget _) (fun _ => rfl) (fun _ _ _ h => h) hfields
  case filters => exact maybe_of_same (hget _) (fun _ => rfl) (fun _ _ _ h => h) hfilters
  case search => exact maybe_of_same (hget _) (fun _ => rfl) (fun _ _ _ h => h) hsearch
  case sort =>
    exact maybe_of_same (hget _) snakeOrder_isNull
      (fun v hv s hs => SortRequest.ofValue_snake (fun vs hvs => hone.items vs (hvs ▸ hv)) hs) hsort
  case pagination =>
    exact maybe_of_same (hget _) snakePage_isNull
      (fun v hv s hs => PageSpec.ofValue_snake (fun m hm => hone.page m (hm ▸ hv)) hs) hpage

/-- A request that was read from JSON is read back from what is written of it, and so is what is written then;
and it is read from either spelling. -/
theorem QueryRequest.ofWire_toWire {d : Members} (hd : (Value.map d).isJson = true) {r : QueryRequest}
    (h : ofWire (.map d) = .ok r) :
    ofWire r.toWire = .ok r ∧ (∀ r', ofWire r.toWire = .ok r' → r'.toWire = r.toWire) ∧
      (SpeltOneWay d → ofWire (.map (snakeRequest d)) = .ok r) := by
  have hback : ofWire r.toWire = .ok r := ofWire_written (holdsJson_of_ofWire hd h)
  refine ⟨hback, fun r' hr' => ?_, fun hone => ofWire_snake hone h⟩
  rw [hback] at hr'
  rw [Except.ok.inj hr']

/-- A request with nulls that mean something, an order in two notations and amounts that are no numbers. -/
def looseRequest : Members :=
  [("filters", .map [("deleted_at", .null), ("tags", .map [("in", .list [.null, .text "new"])])]),
    ("sort", .list [.text "-name", .map [("field", .text "age"), ("direction", .null), ("nullsFirst", .text "yes")]]),
    ("pagination", .map [("pageSize", .text "020"), ("page", .bool true)])]

theorem looseRequest_ofWire : ∃ r, QueryRequest.ofWire (.map looseRequest) = .ok r ∧
    QueryRequest.ofWire r.toWire = .ok r ∧ QueryRequest.ofWire (.map (snakeRequest looseRequest)) = .ok r := by
  have hone : SpeltOneWay looseRequest := by
    refine ⟨fun m hm => ?_, fun vs hvs m hm => ?_⟩
    · cases hm
      decide
    · cases hvs
      obtain rfl : m = _ := by simpa using hm
      decide
  have h : QueryRequest.ofWire (.map looseRequest) = .ok _ := rfl
  obtain ⟨hback, -, hsnake⟩ := QueryRequest.ofWire_toWire (by rfl) h
  exact ⟨_, h, hback, hsnake hone⟩

end PagedSelect
