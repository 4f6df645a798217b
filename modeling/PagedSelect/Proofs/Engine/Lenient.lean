import PagedSelect.Proofs.Engine.Strict
import PagedSelect.Proofs.Engine.Success
import PagedSelect.Proofs.Filter.Meaning
import PagedSelect.Proofs.Number.Numeral
import PagedSelect.Proofs.Request.Reading
import PagedSelect.Proofs.Sort
/-!
# Errors of lenient translation

Lenient translation without a whitelist ends in a query, or it refuses what is no request, or a name that the
request supplies and that is no identifier.  Whatever else is wrong with a request is passed over, as long as
its numbers can be written.
-/

namespace PagedSelect

variable {q : SelectQuery}

/-! ## Filters -/

theorem Asks.contained {field : String} {result : Outcome SelectQuery} {r? : Option Restriction}
    (h : Asks q field result r?) : Contained (fun name => name = field ∧ r? ≠ none) result := by
  cases r? with
  | none =>
    rw [Asks] at h
    rw [h]
    exact .ok q
  | some r =>
    obtain ⟨p, -, rfl⟩ := h
    split
    · exact .ok _
    · rename_i hfield
      intro f hf
      cases hf
      exact ⟨field, ⟨rfl, nofun⟩, Bool.not_eq_true _ ▸ hfield, rfl⟩

/-- Filters whose texts can be written are refused for the fields of those that mean something. -/
theorem applyFilters_contained {filters : Members} (htext : ∀ f ∈ filters, f.2.HasText) (q : SelectQuery) :
    Contained (fun name => ∃ v, (name, v) ∈ filters ∧ v.meaning name ≠ none)
      ((standardRules false).apply none q filters) := by
  refine Contained.foldlM (fun f hf q => ?_) q
  refine (asks_applyCondition (htext f hf)).contained.imp ?_
  rintro name ⟨rfl, hmeaning⟩
  exact ⟨f.2, hf, hmeaning⟩

/-! ## Sort -/

theorem skipItem_entry (e : SortEntry) : SortField.skipItem false e.toValue = .ok () := by
  rw [SortField.skipItem_of_isWritable (SortField.isWritable_entry e)]
  rfl

theorem ofItems_lenient (es : List SortEntry) :
    ∃ fields, SortField.ofItems false (es.map SortEntry.toValue) = .ok fields := by
  induction es with
  | nil => exact ⟨[], rfl⟩
  | cons e r ih =>
    obtain ⟨f?, hf, -⟩ := ofItem_entry e
    obtain ⟨fields, hfields⟩ := ih
    rw [List.map_cons, SortField.ofItems, hf, ok_bind]
    cases f? with
    | none =>
      rw [skipItem_entry, ok_bind]
      exact ⟨fields, hfields⟩
    | some f =>
      rw [hfields]
      exact ⟨f :: fields, rfl⟩

/-- The sort value of a request is always resolved in lenient mode. -/
theorem resolveSort_lenient (r : QueryRequest) : ∃ fields, SortField.resolve false r.sortValue = .ok fields := by
  unfold QueryRequest.sortValue
  cases r.sort with
  | none => exact ⟨[], rfl⟩
  | some sort =>
    unfold SortField.resolve
    split
    · exact ⟨[], rfl⟩
    · cases sort with
      | map members => exact ⟨_, rfl⟩
      | entries es => exact ofItems_lenient es
      | tokens s => exact ⟨_, rfl⟩

theorem applySort_contained (q : SelectQuery) (r : QueryRequest) :
    Contained (fun name => ∃ fields, SortField.resolve false r.sortValue = .ok fields ∧
      name ∈ fields.map SortField.field) (SortField.apply false none q r.sortValue) := by
  obtain ⟨fields, hfields⟩ := resolveSort_lenient r
  rw [SortField.apply, hfields, ok_bind]
  exact applyFields_contained (fun f hf => ⟨fields, rfl, List.mem_map_of_mem hf⟩) q

/-! ## Numbers of a request -/

/-- A value in which every whole number has few enough digits to be written: those that it holds, and those
that decimals in the window of a request are read as. -/
structure Value.HoldsShort (raw : Value) : Prop where
  numbers : raw.isWritable = true
  decimals : ∀ members window, raw = .map members → Keyed.get? "pagination" members = some (.map window) →
    ∀ name d n, (name, .decimal d) ∈ window → Reading.whole (.decimal d) = .ok n → (Value.int n).isWritable = true

theorem natAbs_lt_of_ofTruncated {isWhole : Bool} {part : Except Double.NotFinite Int} {n : Int}
    (h : Reading.ofTruncated isWhole part = .ok n) : n.natAbs < Numeral.wordBound := by
  unfold Reading.ofTruncated at h
  split at h
  · cases h
  · split at h
    · cases h
    · split at h
      · rename_i hbound
        cases h
        exact hbound
      · cases h

/-- A number that is read from a short value can be written. -/
theorem isWritable_of_whole {v : Value} {n : Int} (hv : v.isWritable = true)
    (hdecimal : ∀ d, v = .decimal d → (Value.int n).isWritable = true) (h : Reading.whole v = .ok n) :
    (Value.int n).isWritable = true := by
  have numeral {s : String} (h : Reading.ofNumeral (Numeral.ofWire s) = .ok n) : (Value.int n).isWritable = true := by
    cases hs : Numeral.ofWire s with
    | ok m =>
      rw [hs] at h
      cases h
      exact Numeral.isSome_write?_of_ofWire hs
    | error fault =>
      rw [hs] at h
      cases fault <;> cases h
  cases v with
  | int m =>
    cases h
    exact hv
  | bool b =>
    cases h
    cases b <;> decide
  | text s => exact numeral h
  | bytes b =>
    rw [Reading.whole] at h
    split at h
    · exact numeral h
    · cases h
  | float x =>
    -- A double is read within 64 bits only, which take no more than 19 digits.
    refine Numeral.isSome_write?.2 (Nat.lt_of_lt_of_le (natAbs_lt_of_ofTruncated h) ?_)
    calc Numeral.wordBound ≤ Number.tenTo 19 := by decide
      _ ≤ Number.tenTo Numeral.maxDigits := Numeral.tenTo_le (by decide)
  | decimal d => exact hdecimal d rfl
  | _ => cases h

/-- The amounts of the window of a request can be written, if the request is read from a short value. -/
theorem QueryRequest.amounts_writable {raw : Value} (hraw : raw.HoldsShort) {r : QueryRequest}
    (h : ofWire raw = .ok r) {s : PageSpec} (hs : r.pagination = some s) :
    ∀ n ∈ s.amounts, (Value.int n).isWritable = true := by
  cases raw with
  | null =>
    cases h
    cases hs
  | map members =>
    obtain ⟨-, -, -, -, hpage⟩ := ofMembers_eq_ok.1 (ofWire_eq_ok.1 h)
    rw [hs] at hpage
    obtain ⟨v, hv, -, hread⟩ := Reading.maybe_eq_some.1 hpage
    cases v with
    | map window =>
      have hwindow : (Value.map window).isWritable = true := isWritable_of_mem hraw.numbers (mem_of_get? hv)
      have amount {spellings : List String} {n? : Option Int} {n : Int} (hmember :
          Reading.maybe window spellings Reading.whole = .ok n?) (hn : n? = some n) :
          (Value.int n).isWritable = true := by
        obtain ⟨name, v, hmem, hwhole⟩ := Reading.mem_of_maybe (hn ▸ hmember)
        refine isWritable_of_whole (isWritable_of_mem hwindow hmem) (fun d hd => ?_) hwhole
        exact hraw.decimals members window rfl hv name d n (hd ▸ hmem) (hd ▸ hwhole)
      obtain ⟨hpage, hsize, hoffset, hlimit⟩ := PageSpec.ofMembers_eq_ok.1 hread
      intro n hn
      simp only [PageSpec.amounts, List.mem_append, Option.mem_toList] at hn
      rcases hn with ((hn | hn) | hn) | hn
      · exact amount hpage hn
      · exact amount hsize hn
      · exact amount hoffset hn
      · exact amount hlimit hn
    | _ => cases hread
  | _ => cases h

/-! ## Requests -/

/-- The names that a request supplies where a query needs identifiers: columns, fields of filters that mean
something, targets of a search for something, and the fields that the sort value is resolved to. -/
inductive QueryRequest.Supplies (r : QueryRequest) (name : String) : Prop
  | column (h : name ∈ r.fields.getD []) (hstar : name ≠ "*") : Supplies r name
  | filter (v : Value) (h : (name, v) ∈ r.filters.getD []) (hmeaning : v.meaning name ≠ none) : Supplies r name
  | search (s : SearchSpec) (hs : r.search = some s) (hvoid : Text.isVoid (s.term.getD "") = false)
      (h : name ∈ s.targets) : Supplies r name
  | sort (fields : List SortField) (hfields : SortField.resolve false r.sortValue = .ok fields)
      (h : name ∈ fields.map SortField.field) : Supplies r name

/-- What is read from a short value has filters whose texts can be written. -/
theorem QueryRequest.filters_haveText {raw : Value} (hraw : raw.HoldsShort) {r : QueryRequest}
    (h : ofWire raw = .ok r) : ∀ f ∈ r.filters.getD [], f.2.HasText := by
  intro f hf
  cases raw with
  | null =>
    cases h
    cases hf
  | map members =>
    obtain ⟨-, hfilters, -⟩ := ofMembers_eq_ok.1 (ofWire_eq_ok.1 h)
    cases hm : r.filters with
    | none =>
      rw [hm] at hf
      cases hf
    | some filters =>
      rw [hm] at hf hfilters
      obtain ⟨v, hv, -, hread⟩ := Reading.maybe_eq_some.1 hfilters
      obtain rfl := Reading.members_eq_ok.1 hread
      have hwritable : (Value.map filters).isWritable = true := isWritable_of_mem hraw.numbers (mem_of_get? hv)
      exact Value.hasText_of_isWritable (isWritable_of_mem hwritable hf)
  | _ => cases h

theorem QueryRequest.ofWire_eq_error {raw : Value} {f : Failure} (h : ofWire raw = .error f) :
    ∃ fault, f = .rejected (.malformed fault) := by
  unfold ofWire at h
  split at h
  · cases h
  · split at h
    · cases h
    · cases h
      exact ⟨_, rfl⟩
  · cases h
    exact ⟨_, rfl⟩

namespace Translator

variable {t : Translator} {e : Entity} {table : String} {raw : Value} {r : QueryRequest}

theorem query_contained (hlenient : t.config.strict = false) (hregistry : t.registry = Registry.standard)
    (hmark : t.config.placeholder ≠ "") (htable : t.resolver.resolve e = .ok table)
    (hname : Identifier.accepts table = true) (hfilters : ∀ f ∈ r.filters.getD [], f.2.HasText)
    (hwindow : ∀ s, r.pagination = some s → ∀ n ∈ s.amounts, (Value.int n).isWritable = true) :
    Contained r.Supplies (t.query none e r) := by
  have hrules : t.filterRules = standardRules false := by rw [filterRules, hlenient, hregistry]
  refine Contained.bind (.of_exists ?_) fun q => ?_
  · rw [queryFor, htable]
    exact ofTable_succeeds hname hmark
  refine Contained.bind ?_ fun q => Contained.bind ?_ fun q => Contained.bind ?_ fun q => Contained.bind ?_ fun q => ?_
  · exact (applyProjection_contained q r.fields).imp fun name h => .column h.1 h.2
  · rw [applyFilters, hrules]
    exact (applyFilters_contained hfilters q).imp fun name ⟨v, h, hmeaning⟩ => .filter v h hmeaning
  · rw [hlenient]
    cases hs : r.search with
    | none => exact .ok q
    | some s =>
      have hsearch : Contained _ (s.apply false none q) := SearchSpec.apply_contained (fun h => absurd h (by decide)) q
      exact hsearch.imp fun name h => .search s hs h.1 h.2
  · rw [hlenient]
    exact (applySort_contained q r).imp fun name ⟨fields, hfields, h⟩ => .sort fields hfields h
  · unfold applyWindow
    split
    · exact .ok q
    · rename_i s hs
      obtain ⟨b, hb⟩ := PageSpec.resolve_lenient t.config.maxPageSize (hwindow s hs)
      rw [hlenient, hb]
      exact .ok _

/-- Lenient translation of a short value ends in a query, in the refusal of what is no request, or in the
refusal of a name that the request supplies and that is no identifier. -/
theorem lenient_contains_errors (hlenient : t.config.strict = false) (hregistry : t.registry = Registry.standard)
    (hmark : t.config.placeholder ≠ "") (htable : t.resolver.resolve e = .ok table)
    (hname : Identifier.accepts table = true) (hraw : raw.HoldsShort) :
    (∃ q, t.queryOfWire none e raw = .ok q) ∨
    (∃ fault, QueryRequest.ofWire raw = reject (.malformed fault) ∧
      t.queryOfWire none e raw = reject (.malformed fault)) ∨
    ∃ r name, QueryRequest.ofWire raw = .ok r ∧ r.Supplies name ∧ Identifier.accepts name = false ∧
      t.queryOfWire none e raw = reject (.badField name none) := by
  unfold queryOfWire
  cases hread : QueryRequest.ofWire raw with
  | error f =>
    obtain ⟨fault, rfl⟩ := QueryRequest.ofWire_eq_error hread
    exact .inr (.inl ⟨fault, rfl, rfl⟩)
  | ok r =>
    have hcontained : Contained r.Supplies (t.query none e r) :=
      query_contained hlenient hregistry hmark htable hname (QueryRequest.filters_haveText hraw hread)
        fun s hs => QueryRequest.amounts_writable hraw hread hs
    rw [ok_bind]
    cases hquery : t.query none e r with
    | ok q => exact .inl ⟨q, rfl⟩
    | error f =>
      obtain ⟨name, hsupplied, hrefused, rfl⟩ := hcontained f hquery
      exact .inr (.inr ⟨r, name, rfl, hsupplied, hrefused, rfl⟩)

end Translator

/-- A request of which everything is passed over but a filter on what is no identifier. -/
def untidyRequest : Value := .map [
  ("filters", .map [("age", .map [("between", .list [.int 1])]), ("first name", .text "Ann")]),
  ("search", .map [("term", .text "Ann")]),
  ("sort", .list [.text "-", .map [("direction", .text "desc")]]),
  ("pagination", .map [("page", .decimal (.finite false 20 (-1))), ("pageSize", .int (-1))])]

theorem untidyRequest_holdsShort : untidyRequest.HoldsShort where
  numbers := by decide
  decimals := by
    intro members window hmembers hwindow name d n hmem hread
    cases hmembers
    cases hwindow
    simp only [List.mem_cons, Prod.mk.injEq, Value.decimal.injEq, List.not_mem_nil, or_false, reduceCtorEq, and_false]
      at hmem
    obtain ⟨-, rfl⟩ := hmem
    cases hread
    decide

theorem untidyRequest_refused : ∃ r, QueryRequest.ofWire untidyRequest = .ok r ∧ r.Supplies "first name" ∧
    Identifier.accepts "first name" = false ∧
    Translator.queryOfWire {} none (.value (.text "users")) untidyRequest = reject (.badField "first name" none) := by
  have hrun : Translator.queryOfWire {} none (.value (.text "users")) untidyRequest
      = reject (.badField "first name" none) := rfl
  have htable : TableResolver.named.resolve (.value (.text "users")) = .ok "users" := rfl
  rcases Translator.lenient_contains_errors (t := {}) rfl rfl (by decide) htable (by decide) untidyRequest_holdsShort
    with ⟨q, hq⟩ | ⟨fault, -, hfault⟩ | ⟨r, name, hread, hsupplied, hrefused, hname⟩
  · rw [hrun] at hq
    cases hq
  · rw [hrun] at hfault
    cases hfault
  · rw [hrun] at hname
    cases hname
    exact ⟨r, hread, hsupplied, hrefused, hrun⟩

/-- A request for a page by a decimal. -/
def decimalPage (d : Decimal) (size : Int) : Value :=
  .map [("pagination", .map [("page", .decimal d), ("pageSize", .int size)])]

/-- A page by a decimal that cannot be written as a whole number, of a size not above zero, is not passed over:
it fails when its message is made up. -/
theorem decimalPage_fails {d : Decimal} {n size : Int} (hd : Reading.whole (.decimal d) = .ok n)
    (hn : (Value.int n).isWritable = false) (hsize : size ≤ 0) :
    Translator.queryOfWire {} none (.value (.text "users")) (decimalPage d size) = .error .tooLongToWrite := by
  have hspec : PageSpec.ofMembers [("page", .decimal d), ("pageSize", .int size)]
      = .ok { page := some n, pageSize := some size } :=
    PageSpec.ofMembers_eq_ok.2 ⟨maybe_of_value rfl (map_eq_ok.2 ⟨_, hd, rfl⟩), rfl, rfl, rfl⟩
  have hread : QueryRequest.ofWire (decimalPage d size)
      = .ok { pagination := some { page := some n, pageSize := some size } } :=
    QueryRequest.ofWire_eq_ok.2 (QueryRequest.ofMembers_eq_ok.2 ⟨rfl, rfl, rfl, rfl,
      maybe_of_value rfl (map_eq_ok.2 ⟨_, hspec, rfl⟩)⟩)
  have hnone : Window.ofPage? (some n) (some size) = none := if_neg fun h => by omega
  have hshown : Value.allWritable (PageFault.requestedPage n size).shown = false := by
    simp [PageFault.shown, Value.allWritable, hn]
  rw [Translator.queryOfWire, hread, ok_bind]
  change (PageSpec.resolvePage false none n size).map _ = _
  simp only [PageSpec.resolvePage, PageSpec.clamp, hnone, PageSpec.rejectIf, checkWritable, hshown]
  rfl

/-- Two failures that are not contained: of a query without a mark for parameters, and of a message that shows
a decimal of 5001 digits. -/
theorem errors_escape :
    Translator.queryOfWire { config := { placeholder := "" } } none (.value (.text "users")) .null
      = .error .emptyPlaceholder ∧
    (decimalPage (.finite false 1 5000) (-1)).isWritable = true ∧
    Translator.queryOfWire {} none (.value (.text "users")) (decimalPage (.finite false 1 5000) (-1))
      = .error .tooLongToWrite := by
  refine ⟨rfl, by decide, ?_⟩
  -- Left to the kernel, which has fast arithmetic for a number of this size.
  have hlong : (Reading.whole (.decimal (.finite false 1 5000))).toOption.any (fun n => !(Value.int n).isWritable)
      = true := by
    decide +kernel
  cases hread : Reading.whole (.decimal (.finite false 1 5000)) with
  | error issues =>
    rw [hread] at hlong
    cases hlong
  | ok n =>
    rw [hread] at hlong
    have hn : (!(Value.int n).isWritable) = true := hlong
    exact decimalPage_fails hread (by simpa using hn) (by decide)

end PagedSelect
