import PagedSelect.Proofs.Engine.Exchange
import PagedSelect.Proofs.Engine.Page
/-!
# The envelope of a page

A page on the wire says where it stands among all rows if its query has a limit, and then it says all of
it: its number, its size, the number of pages, limit and offset.  Without a limit it says nothing of it,
whatever the offset is.  What it says agrees with the query, with the count and with its own rows.
-/

namespace PagedSelect

variable {A : Quantity → Prop} {q q' : SelectQuery}

/-! ## Limits of a query -/

/-- A whole number that limits a query is above zero. -/
def SelectQuery.LimitsRows (q : SelectQuery) : Prop := ∀ n, q.limit = some (.whole n) → 0 < n

theorem Effect.limitsRows (h : Effect A q q') (hq : q.LimitsRows) : q'.LimitsRows := by
  intro n hn
  cases h with
  | limit m hm _ =>
    cases hn
    exact of_decide_eq_true hm
  | count label _ => cases hn
  | _ => exact hq n hn

namespace SelectQuery

theorem limitsRows_of_make {start : SelectStart} (h : make start = .ok q) : q.LimitsRows := by
  obtain ⟨table, -, h⟩ := bind_eq_ok.1 h
  split at h
  · cases h
  · obtain ⟨⟨⟩, hlimit, h⟩ := bind_eq_ok.1 h
    obtain ⟨⟨⟩, -, h⟩ := bind_eq_ok.1 h
    split at h
    · cases h
    · cases h
      intro n hn
      -- The check of the start has refused a limit of zero or below.
      by_contra hneg
      have hexhausted : (Quantity.whole n).isExhausted = true := decide_eq_true (by omega : n ≤ 0)
      change start.limit = some (.whole n) at hn
      rw [hn, checkLimit, if_pos hexhausted] at hlimit
      obtain ⟨_, -, hlimit⟩ := bind_eq_ok.1 hlimit
      cases hlimit

/-- The query that clauses build on a start. -/
def buildFrom (start : SelectStart) (cs : List Clause) : Outcome SelectQuery := do (← make start).applyAll cs

/-- However a query is started and built on, its limit is above zero. -/
theorem limitsRows_of_buildFrom {start : SelectStart} {cs : List Clause} (h : buildFrom start cs = .ok q) :
    q.LimitsRows := by
  obtain ⟨q₀, h₀, h⟩ := bind_eq_ok.1 h
  have heffects : Effects anyAmount q₀ q := applyAll_effects (fun c _ => amountsIn_any c) h
  exact Effects.keeps (fun _ _ => Effect.limitsRows) heffects (limitsRows_of_make h₀)

end SelectQuery

/-! ## The place of a page -/

/-- The number of a page is that of the block of rows in which its offset lies. -/
theorem between_pages (offset : Int) {limit : Int} (hlimit : 0 < limit) :
    (offset.fdiv limit + 1 - 1) * limit ≤ offset ∧ offset < (offset.fdiv limit + 1) * limit := by
  rw [Int.fdiv_eq_ediv_of_nonneg _ (by omega), Int.add_sub_cancel]
  exact ⟨Int.ediv_mul_le _ (by omega), Int.lt_ediv_add_one_mul_self _ hlimit⟩

namespace PageMetadata

/-- What metadata for a limit are. -/
theorem eq_of_ofWindow {total limit returned : Int} {offset : Option Int} {m : PageMetadata} (hlimit : 0 < limit)
    (h : ofWindow total (some limit) offset returned = .ok m) : ∃ pages, m = {
      currentPage := some ((offset.getD 0).fdiv limit + 1)
      pageSize := some limit
      totalPages := some pages
      hasMore := offset.getD 0 + returned < total } := by
  cases hpages : ceilingOfQuotient? total limit with
  | none =>
    rw [ofWindow_of_none (by omega) hpages] at h
    cases h
  | some pages =>
    rw [ofWindow_of_pages (by omega) hpages] at h
    exact ⟨pages, (Except.ok.inj h).symm⟩

end PageMetadata

namespace PagedResult

/-- The names under which a page says where it stands. -/
def placeNames : List String := ["currentPage", "pageSize", "totalPages", "limit", "offset"]

/-- A page that says where it stands: all of it, in agreement with its limit and its offset, with the number
of all rows and with so many rows of its own. -/
structure SaysPlace (members : Members) (size start total : Int) (count : Nat) : Prop where
  currentPage : ∃ page, Keyed.get? "currentPage" members = some (.int page) ∧
    (page - 1) * size ≤ start ∧ start < page * size
  pageSize : Keyed.get? "pageSize" members = some (.int size)
  totalPages : ∃ pages, Keyed.get? "totalPages" members = some (.int pages)
  limit : Keyed.get? "limit" members = some (.int size)
  offset : Keyed.get? "offset" members = some (.int start)
  hasMore : ∃ more : Bool, Keyed.get? "hasMore" members = some (.bool more) ∧ (more = true ↔ start + count < total)

/-- A page that says nothing of where it stands, and of no rows behind it. -/
structure SaysNoPlace (members : Members) : Prop where
  absent : ∀ name ∈ placeNames, Keyed.get? name members = none
  hasMore : Keyed.get? "hasMore" members = some (.bool false)

/-- The members of a result on the wire, from its rows as they are sent. -/
def wireMembers (r : PagedResult) (items : List Value) : Members :=
  [("data", .list items), ("totalCount", .int r.totalCount)]
    ++ wireNumber "currentPage" r.currentPage ++ wireNumber "pageSize" r.pageSize
    ++ wireNumber "totalPages" r.totalPages ++ wireNumber "limit" r.limit ++ wireNumber "offset" r.offset
    ++ [("hasMore", .bool r.hasMore)]

theorem toWire_eq_ok {r : PagedResult} {v : Value} :
    r.toWire = .ok v ↔ ∃ items, r.data.mapM Value.wire = .ok items ∧ v = .map (r.wireMembers items) := by
  rw [toWire, bind_eq_ok]
  constructor
  · rintro ⟨items, hitems, h⟩
    exact ⟨items, hitems, (Except.ok.inj h).symm⟩
  · rintro ⟨items, hitems, rfl⟩
    exact ⟨items, hitems, rfl⟩

variable {data items : List Value} {total : Int}

theorem ofRows_saysPlace {limit : Int} {offset : Option Int} {r : PagedResult} (hlimit : 0 < limit)
    (h : ofRows data total (some limit) offset = .ok r) (hlength : items.length = data.length) :
    SaysPlace (r.wireMembers items) limit (offset.getD 0) total items.length := by
  obtain ⟨m, hm, h⟩ := bind_eq_ok.1 h
  obtain ⟨pages, rfl⟩ := PageMetadata.eq_of_ofWindow hlimit hm
  cases h
  refine ⟨⟨_, rfl, between_pages _ hlimit⟩, rfl, ⟨pages, rfl⟩, rfl, rfl, ⟨_, rfl, ?_⟩⟩
  rw [hlength]
  exact decide_eq_true_iff

theorem ofRows_saysNoPlace {offset : Option Int} {r : PagedResult} (h : ofRows data total none offset = .ok r) :
    SaysNoPlace (r.wireMembers items) := by
  cases h
  refine ⟨fun name hname => ?_, rfl⟩
  revert name
  simp [placeNames, assemble, wireMembers, wireNumber, Keyed.get?]

end PagedResult

/-! ## Runs -/

/-- What is mapped item by item has an item for each, in order. -/
theorem forall₂_of_mapM {α β : Type} {f : α → Outcome β} {as : List α} {bs : List β} (h : as.mapM f = .ok bs) :
    List.Forall₂ (fun a b => f a = .ok b) as bs := by
  induction as generalizing bs with
  | nil =>
    cases h
    exact .nil
  | cons a r ih =>
    rw [List.mapM_cons] at h
    obtain ⟨b, hb, h⟩ := bind_eq_ok.1 h
    obtain ⟨bs, hbs, h⟩ := bind_eq_ok.1 h
    cases h
    exact .cons hb (ih hbs)

theorem forall₂_trans {α β γ : Type} {R : α → β → Prop} {S : β → γ → Prop} {as : List α} {bs : List β} {cs : List γ}
    (h : List.Forall₂ R as bs) (h' : List.Forall₂ S bs cs) : List.Forall₂ (fun a c => ∃ b, R a b ∧ S b c) as cs := by
  induction h generalizing cs with
  | nil =>
    cases h'
    exact .nil
  | cons hab _ ih =>
    cases h' with
    | cons hbc h' => exact .cons ⟨_, hab, hbc⟩ (ih h')

namespace Engine

variable {g : Engine} {mapper : RowMapper}

/-- What a store answers to the two statements of a query: the number of all rows, and rows. -/
structure Answers (g : Engine) (q : SelectQuery) (total : Int) (rows : List Row) : Prop where
  count : ∃ c v, q.countStatement g.translator.config.countAlias = .ok c ∧ g.store.fetchCount c = .ok v ∧
    v.whole = .ok total
  rows : ∃ d, q.statement = .ok d ∧ g.store.fetchRows d = .ok rows

/-- A run that gives a page has got an answer to both statements. -/
theorem answers_of_page {page : PagedResult} (h : (g.page mapper q).outcome = .ok page) :
    ∃ total rows data, g.Answers q total rows ∧ rows.mapM mapper.apply = .ok data ∧
      (do PagedResult.ofRows data total (← wholePart q.limit) (← wholePart q.offset)) = .ok page := by
  have hrun : g.page mapper q = Traced.silent (.ok q) >>= g.page mapper := (Traced.silent_ok_bind q _).symm
  have hfollows : g.Follows mapper (.ok q) (g.page mapper q) := by
    rw [hrun]
    exact follows (.ok q)
  -- A part that fails would have ended the run with its failure.
  have failed {events : List Statement} {f : Failure} (hf : g.page mapper q = ⟨events, .error f⟩) : False := by
    rw [hf] at h
    cases h
  cases hc : q.countStatement g.translator.config.countAlias with
  | error f => exact (failed (hfollows.unnamed q f rfl hc).2).elim
  | ok c =>
    cases hv : g.store.fetchCount c with
    | error f => exact (failed (hfollows.uncounted q c f rfl hc hv)).elim
    | ok v =>
      cases htotal : v.whole with
      | error f => exact (failed (hfollows.notWhole q c v f rfl hc hv htotal)).elim
      | ok total =>
        cases hd : q.statement with
        | error f => exact (failed (hfollows.unwritten q c v total f rfl hc hv htotal hd)).elim
        | ok d =>
          obtain ⟨-, -, houtcome⟩ := hfollows.sent q c v total d rfl hc hv htotal hd
          rw [h] at houtcome
          obtain ⟨rows, hrows, houtcome⟩ := bind_eq_ok.1 houtcome.symm
          obtain ⟨data, hdata, hpage⟩ := bind_eq_ok.1 houtcome
          exact ⟨total, rows, data, ⟨⟨c, v, hc, hv, htotal⟩, ⟨d, hd, hrows⟩⟩, hdata, hpage⟩

/-- A page on the wire holds the number of all rows and an entry for each row of the store, in order.  It says
all of where it stands if its query has a limit, and nothing of it without one. -/
theorem page_envelope (g : Engine) (mapper : RowMapper) {start : SelectStart} {cs : List Clause}
    (hq : SelectQuery.buildFrom start cs = .ok q) {limit offset : Option Int}
    (hlimit : q.limit = limit.map .whole) (hoffset : q.offset = offset.map .whole) {page : PagedResult}
    (hpage : (g.page mapper q).outcome = .ok page) {wire : Value} (hwire : page.toWire = .ok wire) :
    ∃ members total rows items, wire = .map members ∧ g.Answers q total rows ∧
      Keyed.get? "totalCount" members = some (.int total) ∧ Keyed.get? "data" members = some (.list items) ∧
      List.Forall₂ (fun row item => ∃ v, mapper.apply row = .ok v ∧ v.wire = .ok item) rows items ∧
      (∀ n, limit = some n → PagedResult.SaysPlace members n (offset.getD 0) total items.length) ∧
      (limit = none → PagedResult.SaysNoPlace members) := by
  obtain ⟨total, rows, data, hanswers, hdata, hrows⟩ := answers_of_page hpage
  rw [hlimit, hoffset, wholePart_map, wholePart_map, ok_bind, ok_bind] at hrows
  obtain ⟨items, hitems, rfl⟩ := PagedResult.toWire_eq_ok.1 hwire
  have hpagedata : page.data = data ∧ page.totalCount = total := by
    obtain ⟨_, -, hpage⟩ := bind_eq_ok.1 hrows
    cases hpage
    exact ⟨rfl, rfl⟩
  obtain ⟨rfl, rfl⟩ := hpagedata
  refine ⟨_, page.totalCount, rows, items, rfl, hanswers, rfl, rfl, ?_, fun n hn => ?_, fun hnone => ?_⟩
  · exact forall₂_trans (forall₂_of_mapM hdata) (forall₂_of_mapM hitems)
  · have hlimited : 0 < n := SelectQuery.limitsRows_of_buildFrom hq n (by rw [hlimit, hn]; rfl)
    rw [hn] at hrows
    exact PagedResult.ofRows_saysPlace hlimited hrows (forall₂_of_mapM hitems).length_eq.symm
  · rw [hnone] at hrows
    exact PagedResult.ofRows_saysNoPlace hrows

end Engine

/-- A store of five rows that counts them in words of its own and gives two of them. -/
def twoOfFive : Store :=
  ⟨fun _ => .ok (.text " 5 "), fun _ => .ok [[("id", .int 3), ("name", .text "c")], [("id", .int 4)]]⟩

/-- The second page of two rows. -/
def secondPair : SelectQuery := { firstTwo with offset := some (.whole 2) }

theorem secondPair_says_place : ∃ page members,
    SelectQuery.buildFrom { table := .text "users" } [.paginate (some (.whole 2)) (some (.whole 2))]
      = .ok secondPair ∧
    (Engine.page ⟨{}, twoOfFive⟩ (.column "id") secondPair).outcome = .ok page ∧ page.toWire = .ok (.map members) ∧
    Keyed.get? "totalCount" members = some (.int 5) ∧ Keyed.get? "currentPage" members = some (.int 2) ∧
    Keyed.get? "hasMore" members = some (.bool true) := by
  have hq : SelectQuery.buildFrom { table := .text "users" } [.paginate (some (.whole 2)) (some (.whole 2))]
      = .ok secondPair := rfl
  have hpage : (Engine.page ⟨{}, twoOfFive⟩ (.column "id") secondPair).outcome = .ok {
      data := [.int 3, .int 4]
      totalCount := 5
      currentPage := some 2
      pageSize := some 2
      totalPages := some 3
      limit := some 2
      offset := some 2
      hasMore := true } := rfl
  have hlimit : secondPair.limit = Option.map .whole (some 2) := rfl
  have hoffset : secondPair.offset = Option.map .whole (some 2) := rfl
  obtain ⟨members, total, rows, items, hwire, hanswers, htotal, -, hitems, hplace, -⟩ :=
    Engine.page_envelope ⟨{}, twoOfFive⟩ (.column "id") hq hlimit hoffset hpage rfl
  obtain ⟨⟨_, _, -, hcount, hwhole⟩, ⟨_, -, hrows⟩⟩ := hanswers
  cases hcount
  cases hwhole
  cases hrows
  obtain ⟨⟨number, hnumber, hlow, hhigh⟩, -, -, -, -, more, hmore, hmore_iff⟩ := hplace 2 rfl
  have hlength : items.length = 2 := hitems.length_eq.symm
  obtain rfl : number = 2 := by
    change (number - 1) * 2 ≤ 2 at hlow
    change 2 < number * 2 at hhigh
    omega
  obtain rfl : more = true := hmore_iff.2 (by rw [hlength]; decide)
  exact ⟨_, members, hq, hpage, by rw [← hwire]; rfl, htotal, hnumber, hmore⟩

end PagedSelect
