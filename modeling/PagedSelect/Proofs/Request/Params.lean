import Mathlib.Data.List.Basic
import PagedSelect.Proofs.Engine.Success
import PagedSelect.Proofs.Keyed
import PagedSelect.Proofs.Number.Numeral
import PagedSelect.Proofs.Request.Reading
import PagedSelect.Proofs.Sort
import PagedSelect.Request.Params
/-!
# Requests in a query string

A plain request asks for equality of fields with texts, for a term in several fields, for an order and
for a page.  It may be written as flat parameters or as an object on the wire, and means the same query
either way.
-/

namespace PagedSelect

/-- A list, unless it is empty. -/
def nonEmpty? {α : Type} : List α → Option (List α)
  | [] => none
  | l => some l

@[simp] theorem getD_nonEmpty? {α : Type} (l : List α) : (nonEmpty? l).getD [] = l := by
  cases l <;> rfl

/-! ## Plain requests -/

/-- The keys of parameters that filter nothing. -/
def ParamRules.reserved : List String :=
  ["search", "sort", "sortBy", "sortDirection", "page", "pageSize", "fields"]

/-- A request that a query string can carry. -/
structure PlainRequest where
  filters : List (String × String) := []
  searchFields : List String := []
  term : Option String := none
  order : List (String × Direction) := []
  columns : List String := []
  page : Nat
  pageSize : Nat
  filters_distinct : (Keyed.keys filters).Nodup
  filters_named : ∀ f ∈ filters, Identifier.accepts f.1 = true ∧ f.1 ∉ ParamRules.reserved
  filters_given : ∀ f ∈ filters, f.2 ≠ ""
  search_named : ∀ f ∈ searchFields, Identifier.accepts f = true
  search_given : ∀ t ∈ term, Text.isVoid t = false ∧ searchFields ≠ []
  -- Tokens and columns are trimmed: without the line feed that is let through behind a name.
  order_named : ∀ o ∈ order, Identifier.isDotted o.1.toList = true
  columns_named : ∀ c ∈ columns, Identifier.isDotted c.toList = true
  page_pos : 0 < page
  page_short : (toString page).length ≤ Numeral.maxDigits
  pageSize_pos : 0 < pageSize
  pageSize_short : (toString pageSize).length ≤ Numeral.maxDigits

namespace PlainRequest

variable (p : PlainRequest)

/-- The filters as members of a map. -/
def members : Members := p.filters.map fun f => (f.1, .text f.2)

/-- The rules under which the parameters of the request are read. -/
def rules : ParamRules where
  searchFields := p.searchFields
  filterFields := Keyed.keys p.filters

/-- The parameters that filter nothing; what is empty is left out. -/
def options : Members :=
  wireMember "search" .text p.term
    ++ wireMember "sort" (fun order => .text (SortField.tokens order)) (nonEmpty? p.order)
    ++ wireMember "fields" (fun columns => .text (",".intercalate columns)) (nonEmpty? p.columns)
    ++ [("page", .text (toString p.page)), ("pageSize", .text (toString p.pageSize))]

/-- The request as flat parameters. -/
def toParams : Members := p.members ++ p.options

/-- The object for a search of the request. -/
def searchObject (term : String) : Value := .map [("fields", .ofTexts p.searchFields), ("term", .text term)]

/-- The list of objects for the order of the request. -/
def orderObjects : Value :=
  .list (p.order.map fun o => .map [("field", .text o.1), ("direction", .text o.2.keyword)])

/-- The object for the page of the request. -/
def windowObject : Value := .map [("page", .int p.page), ("pageSize", .int p.pageSize)]

/-- The members of the request on the wire. -/
def object : Members :=
  [("fields", .ofTexts p.columns), ("filters", .map p.members)] ++ wireMember "search" p.searchObject p.term
    ++ [("sort", p.orderObjects), ("pagination", p.windowObject)]

/-- The search that the request asks for. -/
def search : Option SearchSpec := p.term.map fun t => { fields := some p.searchFields, term := some t }

/-- The page that the request asks for. -/
def window : PageSpec where
  page := some p.page
  pageSize := some p.pageSize

/-- The request that its parameters stand for. -/
def ofFlat : QueryRequest where
  fields := nonEmpty? p.columns
  filters := nonEmpty? p.members
  search := p.search
  sort := (nonEmpty? p.order).map fun order => .tokens (SortField.tokens order)
  pagination := some p.window

/-- The request that its object stands for. -/
def ofObject : QueryRequest where
  fields := some p.columns
  filters := some p.members
  search := p.search
  sort := some (.entries (p.order.map fun o => .item (SortField.item o)))
  pagination := some p.window

/-! ## The parameters -/

theorem keys_members : Keyed.keys p.members = Keyed.keys p.filters := by
  simp [Keyed.keys, members]

theorem keys_options : (Keyed.keys p.options).Sublist ["search", "sort", "fields", "page", "pageSize"] := by
  have h := (((keys_wireMember "search" Value.text p.term).append (keys_wireMember "sort"
    (fun order => .text (SortField.tokens order)) (nonEmpty? p.order))).append (keys_wireMember "fields"
    (fun columns => .text (",".intercalate columns)) (nonEmpty? p.columns))).append
    (List.Sublist.refl ["page", "pageSize"])
  simpa [options, Keyed.keys] using h

theorem not_mem_filters {key : String} (h : key ∈ ParamRules.reserved) : key ∉ Keyed.keys p.filters := by
  intro hkey
  obtain ⟨f, hf, rfl⟩ := List.mem_map.1 hkey
  exact (p.filters_named f hf).2 h

theorem nodup_toParams : (Keyed.keys p.toParams).Nodup := by
  have hkeys : Keyed.keys p.toParams = Keyed.keys p.filters ++ Keyed.keys p.options := by
    rw [← keys_members]
    simp [Keyed.keys, toParams]
  rw [hkeys]
  refine List.nodup_append.2 ⟨p.filters_distinct, (keys_options p).nodup (by decide), ?_⟩
  have hreserved : ∀ key ∈ ["search", "sort", "fields", "page", "pageSize"], key ∈ ParamRules.reserved := by decide
  rintro key hkey _ hoption rfl
  exact not_mem_filters p (hreserved key ((keys_options p).subset hoption)) hkey

theorem get?_reserved {key : String} (h : key ∈ ParamRules.reserved) :
    Keyed.get? key p.toParams = Keyed.get? key p.options := by
  rw [toParams, get?_append, get?_eq_none.2, Option.none_or]
  rw [keys_members]
  exact not_mem_filters p h

theorem get?_filter {f : String × String} (hf : f ∈ p.filters) :
    Keyed.get? f.1 p.toParams = some (.text f.2) := by
  refine get?_of_mem (nodup_toParams p) (List.mem_append_left _ ?_)
  exact List.mem_map_of_mem (f := fun f : String × String => (f.1, Value.text f.2)) hf

/-! ## Reading the parameters -/

theorem filterValue?_of_text {params : Members} {name s : String} (h : Keyed.get? name params = some (.text s))
    (hs : s ≠ "") : ParamRules.filterValue? params name = some (.text s) := by
  unfold ParamRules.filterValue?
  rw [h]
  split
  · rename_i heq
    cases heq
  · rename_i heq
    cases heq
  · rename_i heq
    exact absurd (Value.text.inj (Option.some.inj heq)) hs
  · rename_i heq
    exact heq.symm

theorem wholeParam_toString {n : Nat} (h : (toString n).length ≤ Numeral.maxDigits) (default : Option Int) :
    ParamRules.wholeParam (.text (toString n)) default = .ok (some n) := by
  rw [ParamRules.wholeParam, Value.whole, Numeral.ofText_toString h]
  rfl

variable {p} {params : Members} (hget : ∀ key, Keyed.get? key params = Keyed.get? key p.toParams)

include hget

theorem filters_read : p.rules.filters params = nonEmpty? p.members := by
  have hvalue : ∀ f ∈ p.filters, ParamRules.filterValue? params f.1 = some (.text f.2) := fun f hf =>
    filterValue?_of_text (by rw [hget, get?_filter p hf]) (p.filters_given f hf)
  have hread : p.rules.filterFields.filterMap (fun name =>
      (ParamRules.filterValue? params name).map fun v => (name, v)) = p.members := by
    change (p.filters.map _).filterMap _ = p.filters.map _
    rw [List.filterMap_map, ← List.filterMap_eq_map]
    refine List.filterMap_congr fun f hf => ?_
    simp [hvalue f hf]
  have hkeys : (Keyed.keys p.members).Nodup := by
    rw [keys_members]
    exact p.filters_distinct
  rw [ParamRules.filters, hread, ofList_of_nodup hkeys]
  cases p.members <;> rfl

theorem param_of_options {key : String} (h : key ∈ ParamRules.reserved) :
    ParamRules.param params key = (Keyed.get? key p.options).getD .null := by
  rw [ParamRules.param, hget, get?_reserved p h]

theorem search_read : p.rules.search params = p.search := by
  have hparam : ParamRules.param params "search" = (p.term.map Value.text).getD .null := by
    rw [param_of_options hget (by decide)]
    simp [options, get?_append, Keyed.get?]
  rw [ParamRules.search, show p.rules.searchKey = "search" from rfl, hparam, PlainRequest.search]
  cases hterm : p.term with
  | none => rfl
  | some t =>
    obtain ⟨hvoid, hfields⟩ := p.search_given t hterm
    have hgiven : p.rules.searchFields.isEmpty = false := List.isEmpty_eq_false_iff.2 hfields
    simp only [Option.map_some, Option.getD_some, hvoid, hgiven, Bool.or_self, Bool.false_eq_true, if_false]
    rfl

theorem sort_read :
    p.rules.sort params = .ok ((nonEmpty? p.order).map fun order => .tokens (SortField.tokens order)) := by
  have hby : ParamRules.param params "sortBy" = .null := by
    rw [param_of_options hget (by decide)]
    simp [options, get?_append, Keyed.get?]
  have hsort : ParamRules.param params "sort" =
      ((nonEmpty? p.order).map fun order => Value.text (SortField.tokens order)).getD .null := by
    rw [param_of_options hget (by decide)]
    simp [options, get?_append, Keyed.get?]
  rw [ParamRules.sort, show p.rules.sortByKey = "sortBy" from rfl, hby, ParamRules.sortTokens,
    show p.rules.sortKey = "sort" from rfl, hsort]
  cases horder : p.order with
  | nil => rfl
  | cons o r =>
    have hgiven : (Value.text (SortField.tokens (o :: r))).isGiven = true := by
      simpa [Value.isGiven] using SortField.tokens_ne_empty (List.cons_ne_nil o r) (horder ▸ p.order_named)
    simp [nonEmpty?, hgiven]

theorem fields_read : p.rules.fields params = .ok (nonEmpty? p.columns) := by
  have hfields : ParamRules.param params "fields" =
      ((nonEmpty? p.columns).map fun columns => Value.text (",".intercalate columns)).getD .null := by
    rw [param_of_options hget (by decide)]
    simp [options, get?_append, Keyed.get?]
  rw [ParamRules.fields, show p.rules.fieldsKey = "fields" from rfl, hfields]
  cases hcolumns : p.columns with
  | nil => rfl
  | cons c r =>
    have hnamed : ∀ n ∈ c :: r, Identifier.isDotted n.toList = true := hcolumns ▸ p.columns_named
    have hpieces : Text.commaPieces (",".intercalate (c :: r)) = c :: r :=
      Text.commaPieces_intercalate (List.cons_ne_nil c r) fun n hn =>
        Text.not_mem_of_isDotted (hnamed n hn) (by decide) (by decide)
    have htrim : (c :: r).map Text.trim = c :: r :=
      (List.map_congr_left fun n hn => Text.trim_of_none (Text.isSpace_of_isDotted (hnamed n hn))).trans
        (List.map_id _)
    have hkept : (c :: r).filter (· ≠ "") = c :: r := by
      refine List.filter_eq_self.2 fun n hn => ?_
      have hne : n ≠ "" := fun he => Identifier.ne_nil_of_isDotted (hnamed n hn) (by simp [he])
      simpa using hne
    simp only [nonEmpty?, Option.map_some, Option.getD_some, ParamRules.fieldNames, hpieces, htrim, hkept, ok_bind]
    rfl

theorem ofParams_read : QueryRequest.ofParams p.rules params = .ok p.ofFlat := by
  have hpage : ParamRules.param params "page" = .text (toString p.page) := by
    rw [param_of_options hget (by decide)]
    simp [options, get?_append, Keyed.get?]
  have hpageSize : ParamRules.param params "pageSize" = .text (toString p.pageSize) := by
    rw [param_of_options hget (by decide)]
    simp [options, get?_append, Keyed.get?]
  unfold QueryRequest.ofParams
  rw [sort_read hget, ok_bind, fields_read hget, ok_bind, show p.rules.pageKey = "page" from rfl, hpage,
    wholeParam_toString p.page_short, ok_bind, show p.rules.pageSizeKey = "pageSize" from rfl, hpageSize,
    wholeParam_toString p.pageSize_short, ok_bind, filters_read hget, search_read hget]
  rfl

omit hget

/-! ## Reading the object -/

variable (p)

theorem search_ofValue (term : String) :
    SearchSpec.ofValue (p.searchObject term) = .ok { fields := some p.searchFields, term := some term } := by
  have hfields : Reading.maybe [("fields", .ofTexts p.searchFields), ("term", .text term)] ["fields"]
      (Reading.list Reading.text) = .ok (some p.searchFields) :=
    maybe_of_value rfl (optional_ofTexts p.searchFields)
  exact SearchSpec.ofMembers_eq_ok.2 ⟨rfl, hfields, rfl, rfl⟩

theorem sort_ofValue :
    SortRequest.ofValue p.orderObjects = .ok (.entries (p.order.map fun o => .item (SortField.item o))) := by
  have hlist : Reading.list SortEntry.ofValue p.orderObjects
      = .ok (p.order.map fun o => .item (SortField.item o)) := Reading.list_map fun _ _ => rfl
  refine Reading.firstOf_cons_eq_ok.2 (.inr ⟨⟨_, rfl⟩, Reading.firstOf_of_ok ?_ _⟩)
  rw [hlist]
  rfl

theorem ofWire_read : QueryRequest.ofWire (.map p.object) = .ok p.ofObject := by
  have hfields : Reading.maybe p.object ["fields"] (Reading.list Reading.text) = .ok (some p.columns) :=
    maybe_of_value (by simp [object, Keyed.get?]) (optional_ofTexts p.columns)
  have hfilters : Reading.maybe p.object ["filters"] Reading.members = .ok (some p.members) :=
    maybe_of_value (v := .map p.members) (by simp [object, Keyed.get?]) rfl
  have hsearch : Reading.maybe p.object ["search"] SearchSpec.ofValue = .ok p.search := by
    refine maybe_of_get? p.searchObject (by simp [object, get?_append, Keyed.get?]) (by simp) fun t _ => ?_
    change (SearchSpec.ofValue (p.searchObject t)).map some = _
    rw [search_ofValue]
    rfl
  have hsort : Reading.maybe p.object ["sort"] SortRequest.ofValue
      = .ok (some (.entries (p.order.map fun o => .item (SortField.item o)))) := by
    refine maybe_of_value (v := p.orderObjects) (by simp [object, get?_append, Keyed.get?]) ?_
    change (SortRequest.ofValue p.orderObjects).map some = _
    rw [sort_ofValue]
    rfl
  have hpage : Reading.maybe p.object ["pagination"] PageSpec.ofValue = .ok (some p.window) :=
    maybe_of_value (v := p.windowObject) (by simp [object, get?_append, Keyed.get?]) rfl
  exact QueryRequest.ofWire_eq_ok.2 (QueryRequest.ofMembers_eq_ok.2 ⟨hfields, hfilters, hsearch, hsort, hpage⟩)

end PlainRequest

/-! ## One query -/

/-- Two requests with the same parts, where an empty part is as good as none and the order may be in
different notations. -/
structure QueryRequest.SameParts (r r' : QueryRequest) : Prop where
  fields : r.fields.getD [] = r'.fields.getD []
  filters : r.filters.getD [] = r'.filters.getD []
  search : r.search = r'.search
  sort : ∀ strict, SortField.resolve strict r.sortValue = SortField.resolve strict r'.sortValue
  pagination : r.pagination = r'.pagination

theorem QueryRequest.SameParts.query_eq {r r' : QueryRequest} (h : r.SameParts r') (t : Translator)
    (w : Option Whitelist) (e : Entity) : t.query w e r = t.query w e r' := by
  simp only [Translator.query, Translator.applyProjection, Translator.applyFilters, SortField.apply, h.fields,
    h.filters, h.search, h.sort, h.pagination]

namespace PlainRequest

variable (p : PlainRequest)

theorem resolve_flat (strict : Bool) :
    SortField.resolve strict p.ofFlat.sortValue = .ok (p.order.map SortField.plain) := by
  rw [QueryRequest.sortValue, ofFlat]
  cases horder : p.order with
  | nil => rfl
  | cons o r => exact SortField.resolve_tokens strict (List.cons_ne_nil o r) (horder ▸ p.order_named)

theorem resolve_object (strict : Bool) :
    SortField.resolve strict p.ofObject.sortValue = .ok (p.order.map SortField.plain) := by
  change SortField.resolve strict (.list ((p.order.map _).map SortEntry.toValue)) = _
  rw [List.map_map]
  refine SortField.resolve_items strict fun o ho he => ?_
  exact Identifier.ne_nil_of_isDotted (p.order_named o ho) (by simp [he])

theorem sameParts : p.ofFlat.SameParts p.ofObject where
  fields := getD_nonEmpty? p.columns
  filters := getD_nonEmpty? p.members
  search := rfl
  sort strict := (resolve_flat p strict).trans (resolve_object p strict).symm
  pagination := rfl

/-! ## A query at all -/

theorem accepts_of_isDotted {name : String} (h : Identifier.isDotted name.toList = true) :
    Identifier.accepts name = true := by
  rw [Identifier.accepts, h, Bool.true_or]

theorem projection_succeeds (q : SelectQuery) :
    ∃ q', Translator.applyProjection none q p.ofFlat.fields = .ok q' := by
  refine applyProjection_succeeds (fun c hc => ?_) q
  rw [ofFlat, getD_nonEmpty?] at hc
  exact accepts_of_isDotted (p.columns_named c hc)

theorem filters_succeed (t : Translator) (q : SelectQuery) :
    ∃ q', t.applyFilters none q p.ofFlat.filters = .ok q' := by
  rw [Translator.applyFilters, ofFlat, getD_nonEmpty?]
  refine foldlM_succeeds (fun f hf q => ?_) q
  obtain ⟨f, hfilter, rfl⟩ := List.mem_map.1 hf
  exact compare_succeeds (p.filters_named f hfilter).1 .equal (.text f.2) q

theorem search_succeeds (strict : Bool) (q : SelectQuery) :
    ∃ q', applySearch strict none q p.ofFlat.search = .ok q' := by
  rw [ofFlat, search]
  cases hterm : p.term with
  | none => exact ⟨q, rfl⟩
  | some t => exact applySearch_succeeds (p.search_given t hterm).2 p.search_named t strict q

theorem order_succeeds (strict : Bool) (q : SelectQuery) :
    ∃ q', SortField.apply strict none q p.ofFlat.sortValue = .ok q' := by
  rw [SortField.apply, resolve_flat, ok_bind]
  refine applyFields_succeeds (fun f hf => ?_) q
  obtain ⟨o, ho, rfl⟩ := List.mem_map.1 hf
  exact accepts_of_isDotted (p.order_named o ho)

theorem window_succeeds (t : Translator) (q : SelectQuery) :
    ∃ q', t.applyWindow q p.ofFlat.pagination = .ok q' := by
  have hwindow : p.window.resolve t.config.strict t.config.maxPageSize = .ok _ :=
    PageSpec.resolvePage_of_pos t.config.maxPageSize_pos (Int.natCast_pos.2 p.page_pos)
      (Int.natCast_pos.2 p.pageSize_pos) t.config.strict
  rw [ofFlat, Translator.applyWindow, hwindow]
  exact ⟨_, rfl⟩

/-- A request means the same query as flat parameters, in whatever order, and as an object on the wire; and
it means one for every table if nothing is forbidden. -/
theorem query_ofParams {params : Members} (h : params.Perm p.toParams) :
    ∃ r, QueryRequest.ofParams p.rules params = .ok r ∧
      (∀ (t : Translator) (w : Option Whitelist) (e : Entity),
        t.query w e r = t.queryOfWire w e (.map p.object)) ∧
      ∀ (t : Translator) (e : Entity) (table : String), t.resolver.resolve e = .ok table →
        Identifier.accepts table = true → t.config.placeholder ≠ "" → ∃ q, t.query none e r = .ok q := by
  have hkeys : (Keyed.keys params).Nodup := (h.map Prod.fst).nodup_iff.2 (nodup_toParams p)
  refine ⟨_, ofParams_read (get?_of_perm h hkeys), fun t w e => ?_, fun t e table htable hnamed hmark => ?_⟩
  · rw [Translator.queryOfWire, ofWire_read, ok_bind]
    exact (sameParts p).query_eq t w e
  · obtain ⟨q₀, h₀⟩ := ofTable_succeeds hnamed hmark
    obtain ⟨q₁, h₁⟩ := projection_succeeds p q₀
    obtain ⟨q₂, h₂⟩ := filters_succeed p t q₁
    obtain ⟨q₃, h₃⟩ := search_succeeds p t.config.strict q₂
    obtain ⟨q₄, h₄⟩ := order_succeeds p t.config.strict q₃
    obtain ⟨q₅, h₅⟩ := window_succeeds p t q₄
    have hfor : t.queryFor e = .ok q₀ := bind_eq_ok.2 ⟨table, htable, h₀⟩
    refine ⟨q₅, ?_⟩
    rw [Translator.query, hfor, ok_bind, h₁, ok_bind, h₂, ok_bind, h₃, ok_bind]
    exact bind_eq_ok.2 ⟨q₄, h₄, h₅⟩

end PlainRequest

/-- The second page of the active users called ann, the newest first. -/
def activeAnns : PlainRequest where
  filters := [("status", "active")]
  searchFields := ["name", "email"]
  term := some " ann"
  order := [("created_at", .descending), ("users.name", .ascending)]
  columns := ["id", "name"]
  page := 2
  pageSize := 20
  filters_distinct := by decide
  filters_named := by decide
  filters_given := by decide
  search_named := by decide
  search_given := by decide
  order_named := by decide
  columns_named := by decide
  page_pos := by decide
  page_short := by decide
  pageSize_pos := by decide
  pageSize_short := by decide

theorem activeAnns_query : ∃ r q, QueryRequest.ofParams activeAnns.rules activeAnns.toParams.reverse = .ok r ∧
    Translator.query {} none (.value (.text "users")) r = .ok q ∧
    Translator.queryOfWire {} none (.value (.text "users")) (.map activeAnns.object) = .ok q := by
  obtain ⟨r, hr, hsame, hquery⟩ := PlainRequest.query_ofParams activeAnns (List.reverse_perm _)
  obtain ⟨q, hq⟩ := hquery {} (.value (.text "users")) "users" rfl (by decide) (by decide)
  exact ⟨r, q, hr, hq, by rw [← hsame, hq]⟩

end PagedSelect
