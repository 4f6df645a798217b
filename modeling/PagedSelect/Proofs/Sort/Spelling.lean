import Mathlib.Data.List.Forall2
import PagedSelect.Proofs.Identifier.Grammar
import PagedSelect.Proofs.Select.Interleaving
import PagedSelect.Proofs.Sort
/-!
# Spellings of an order

An order may be written as objects or tokens in a list, as one text of tokens, or as a map.  Directions may
stand in any letter case, and there may be spaces around a direction, around a token, and behind its minus.
However an order is written, it is resolved to the same fields.
-/

namespace PagedSelect

open Text

/-! ## Letter case -/

namespace Text

theorem codes_of_isUpper_toUpper {c : Char} (h : c.toUpper.isUpper = true) :
    (0x41 ≤ c.toNat ∧ c.toNat ≤ 0x5A) ∨ (0x61 ≤ c.toNat ∧ c.toNat ≤ 0x7A) := by
  unfold Char.toUpper at h
  split at h
  · rename_i hlower
    exact .inr ⟨UInt32.le_iff_toNat_le.1 hlower.1, UInt32.le_iff_toNat_le.1 hlower.2⟩
  · obtain ⟨hl, hr⟩ : 'A'.val ≤ c.val ∧ c.val ≤ 'Z'.val := of_decide_eq_true h
    exact .inl ⟨UInt32.le_iff_toNat_le.1 hl, UInt32.le_iff_toNat_le.1 hr⟩

/-- A letter has one capital. -/
theorem capital_of_isUpper_toUpper {c : Char} (h : c.toUpper.isUpper = true) : capital c = [c.toUpper] := by
  have hcodes := codes_of_isUpper_toUpper h
  unfold capital
  split <;> first | rfl | omega

theorem isSpace_of_isUpper_toUpper {c : Char} (h : c.toUpper.isUpper = true) : isSpace c = false := by
  have hcodes := codes_of_isUpper_toUpper h
  exact isSpace_of_codes (by omega) (by omega)

end Text

/-! ## Directions -/

/-- A text for a direction: its keyword in any letter case, with any spaces around. -/
inductive Direction.Spells (d : Direction) : String → Prop
  | padded {pre w post : String} (hpre : isVoid pre = true)
      (hw : w.toList.map Char.toUpper = d.keyword.toList) (hpost : isVoid post = true) : Spells d (pre ++ w ++ post)

theorem Direction.ofValue_of_spells {d : Direction} {t : String} (h : d.Spells t) : ofValue (.text t) = d := by
  obtain @⟨pre, w, post, hpre, hw, hpost⟩ := h
  have hkeyword : ∀ k ∈ d.keyword.toList, k.isUpper = true :=
    List.all_eq_true.1 (by cases d <;> rfl)
  have hupper : ∀ c ∈ w.toList, c.toUpper.isUpper = true := fun c hc =>
    hkeyword _ (hw ▸ List.mem_map_of_mem hc)
  have hspace : ∀ c ∈ w.toList, isSpace c = false := fun c hc => isSpace_of_isUpper_toUpper (hupper c hc)
  have hne : w ≠ "" := by
    rintro rfl
    cases d <;> cases hw
  have htrim : trim (pre ++ w ++ post) = w := by
    rw [trim, trimEnds_padded hpre hpost hne, String.ofList_toList]
    · exact fun c hc => hspace c (List.mem_of_mem_head? hc)
    · exact fun c hc => hspace c (List.mem_of_getLast? hc)
  have hcapitals : capitals w = d.keyword := by
    rw [capitals, List.flatMap_congr fun c hc => capital_of_isUpper_toUpper (hupper c hc), ← List.map_eq_flatMap,
      hw, String.ofList_toList]
  rw [ofValue, htrim, hcapitals]
  cases d <;> rfl

theorem Direction.spells_word {d : Direction} {w : String} (hw : w.toList.map Char.toUpper = d.keyword.toList) :
    d.Spells w := by
  have hnone : isVoid "" = true := rfl
  simpa using Spells.padded hnone hw hnone

/-! ## Notations -/

namespace SortField

variable {o : String × Direction} {order : List (String × Direction)} {raw : Value}

/-- A token for a field in a direction, with any spaces around and behind its minus. -/
inductive IsToken : String × Direction → String → Prop
  | ascending {field pre post : String} (hpre : isVoid pre = true) (hpost : isVoid post = true) :
      IsToken (field, .ascending) (pre ++ field ++ post)
  | descending {field pre mid post : String} (hpre : isVoid pre = true) (hmid : isVoid mid = true)
      (hpost : isVoid post = true) : IsToken (field, .descending) (pre ++ "-" ++ mid ++ field ++ post)

/-- An object for a field in a direction, without a place for nulls. -/
structure IsObject (o : String × Direction) (members : Members) : Prop where
  field : Keyed.get? "field" members = some (.text o.1)
  direction : ∃ t, Keyed.get? "direction" members = some (.text t) ∧ o.2.Spells t
  nulls : ((Keyed.get? "nulls_first" members).or (Keyed.get? "nullsFirst" members)).getD .null = .null

/-- An item of a list for a field in a direction. -/
inductive IsItem (o : String × Direction) : Value → Prop
  | map {members : Members} (h : IsObject o members) : IsItem o (.map members)
  | record {name : String} {members : Members} (h : IsObject o members) : IsItem o (.record name members)
  | token {t : String} (h : IsToken o t) : IsItem o (.text t)

/-- A member of a map for a field in a direction. -/
inductive IsMember (o : String × Direction) : String × Value → Prop
  | named {t : String} (h : o.2.Spells t) : IsMember o (o.1, .text t)

/-- A sort value for an order: a list of objects and tokens, tokens with commas between them, or a map. -/
inductive Writes (order : List (String × Direction)) : Value → Prop
  | list {items : List Value} (h : List.Forall₂ IsItem order items) : Writes order (.list items)
  | tuple {items : List Value} (h : List.Forall₂ IsItem order items) : Writes order (.tuple items)
  | tokens {ts : List String} (h : List.Forall₂ IsToken order ts) : Writes order (.text (",".intercalate ts))
  | map {members : Members} (h : List.Forall₂ IsMember order members) : Writes order (.map members)

/-! ## Items -/

theorem comma_not_mem_of_isVoid {s : String} (h : isVoid s = true) : ',' ∉ s.toList := fun hc =>
  absurd (List.all_eq_true.1 h ',' hc) (by decide)

theorem IsToken.comma_not_mem {t : String} (h : IsToken o t) (hname : Identifier.IsName o.1) : ',' ∉ t.toList := by
  have hfield : ',' ∉ o.1.toList := not_mem_of_isDotted (Identifier.isDotted_iff.2 hname) (by decide) (by decide)
  cases h with
  | ascending hpre hpost =>
    simp [comma_not_mem_of_isVoid hpre, comma_not_mem_of_isVoid hpost, hfield]
  | descending hpre hmid hpost =>
    simp [comma_not_mem_of_isVoid hpre, comma_not_mem_of_isVoid hmid, comma_not_mem_of_isVoid hpost, hfield]

theorem trimEnds_name {pre name post : String} (hpre : isVoid pre = true) (hpost : isVoid post = true)
    (hname : Identifier.IsName name) : trimEnds isSpace (pre ++ name ++ post).toList = name.toList := by
  have hdotted := Identifier.isDotted_iff.2 hname
  have hspace : ∀ c ∈ name.toList, isSpace c = false := isSpace_of_isDotted hdotted
  refine trimEnds_padded hpre hpost (fun he => ?_) (fun c hc => ?_) fun c hc => ?_
  · exact Identifier.ne_nil_of_isDotted hdotted (String.toList_eq_nil_iff.2 he)
  · exact hspace c (List.mem_of_mem_head? hc)
  · exact hspace c (List.mem_of_getLast? hc)

/-- Trimming leaves the spaces behind a minus. -/
theorem trimEnds_minus {pre mid name post : String} (hpre : isVoid pre = true) (hpost : isVoid post = true)
    (hname : Identifier.IsName name) :
    trimEnds isSpace (pre ++ "-" ++ mid ++ name ++ post).toList = '-' :: (mid ++ name).toList := by
  have hdotted := Identifier.isDotted_iff.2 hname
  have hbody : ("-" ++ mid ++ name).toList = '-' :: (mid ++ name).toList := by
    simp only [String.toList_append, List.append_assoc]
    rfl
  have hne : "-" ++ mid ++ name ≠ "" := by
    intro he
    rw [he] at hbody
    cases hbody
  have hlast : ("-" ++ mid ++ name).toList.getLast? = name.toList.getLast? := by
    rw [String.toList_append, List.getLast?_append_of_ne_nil _ (Identifier.ne_nil_of_isDotted hdotted)]
  have htrim : trimEnds isSpace (pre ++ ("-" ++ mid ++ name) ++ post).toList = ("-" ++ mid ++ name).toList := by
    refine trimEnds_padded hpre hpost hne (fun c hc => ?_) fun c hc => ?_
    · rw [hbody] at hc
      cases hc
      decide
    · rw [hlast] at hc
      exact isSpace_of_isDotted hdotted c (List.mem_of_getLast? hc)
  rw [← String.append_assoc, ← String.append_assoc] at htrim
  rw [htrim, hbody]

/-- A token is read as what it stands for. -/
theorem ofToken?_of_isToken {t : String} (h : IsToken o t) (hname : Identifier.IsName o.1) :
    ofToken? t = some (plain o) := by
  have hdotted := Identifier.isDotted_iff.2 hname
  obtain ⟨c, r, hfirst⟩ := List.exists_cons_of_ne_nil (Identifier.ne_nil_of_isDotted hdotted)
  have hfield : String.ofList (c :: r) = o.1 := by rw [← hfirst, String.ofList_toList]
  cases h with
  | ascending hpre hpost =>
    have hminus : c ≠ '-' := by
      rintro rfl
      exact not_mem_of_isDotted (c := '-') hdotted (by decide) (by decide) (by simp [hfirst])
    have htrim := trimEnds_name hpre hpost hname
    rw [hfirst] at htrim
    rw [ofToken?_ascending htrim hminus, hfield]
  | descending hpre hmid hpost =>
    have hnone : isVoid "" = true := rfl
    have hinner := trimEnds_name hmid hnone hname
    rw [String.append_empty, hfirst] at hinner
    rw [ofToken?_descending (trimEnds_minus hpre hpost hname) hinner, hfield]

theorem filterMap_ofToken? {ts : List String} (h : List.Forall₂ IsToken order ts)
    (hnames : ∀ o ∈ order, Identifier.IsName o.1) : ts.filterMap ofToken? = order.map plain := by
  induction h with
  | nil => rfl
  | cons ht _ ih =>
    rw [List.forall_mem_cons] at hnames
    rw [List.filterMap_cons, ofToken?_of_isToken ht hnames.1, ih hnames.2, List.map_cons]

theorem comma_not_mem_of_isToken {ts : List String} (h : List.Forall₂ IsToken order ts)
    (hnames : ∀ o ∈ order, Identifier.IsName o.1) : ∀ t ∈ ts, ',' ∉ t.toList := by
  induction h with
  | nil => exact nofun
  | cons ht _ ih =>
    rw [List.forall_mem_cons] at hnames ⊢
    exact ⟨ht.comma_not_mem hnames.1, ih hnames.2⟩

theorem ofMembers_of_isObject {members : Members} (h : IsObject o members) (hname : Identifier.IsName o.1) :
    ofMembers members = .ok (some (plain o)) := by
  obtain ⟨t, hdirection, ht⟩ := h.direction
  have hne : o.1 ≠ "" := fun he =>
    Identifier.ne_nil_of_isDotted (Identifier.isDotted_iff.2 hname) (String.toList_eq_nil_iff.2 he)
  have hgiven : (Value.text o.1).isGiven = true := by simpa [Value.isGiven] using hne
  simp only [ofMembers, h.field, hgiven, if_true, written_text, ok_bind, hdirection, Option.getD_some, h.nulls,
    Direction.ofValue_of_spells ht]
  rfl

theorem ofItem_of_isItem {v : Value} (h : IsItem o v) (hname : Identifier.IsName o.1) :
    ofItem v = .ok (some (plain o)) := by
  cases h with
  | map h => exact ofMembers_of_isObject h hname
  | record h => exact ofMembers_of_isObject h hname
  | token h => exact congrArg Except.ok (ofToken?_of_isToken h hname)

theorem ofItems_of_isItem (strict : Bool) {items : List Value} (h : List.Forall₂ IsItem order items)
    (hnames : ∀ o ∈ order, Identifier.IsName o.1) : ofItems strict items = .ok (order.map plain) := by
  induction h with
  | nil => rfl
  | cons hv _ ih =>
    rw [List.forall_mem_cons] at hnames
    rw [ofItems, ofItem_of_isItem hv hnames.1, ok_bind, ih hnames.2]
    rfl

theorem map_of_isMember {members : Members} (h : List.Forall₂ IsMember order members) :
    members.map (fun m => (⟨m.1, Direction.ofValue m.2, .null⟩ : SortField)) = order.map plain := by
  induction h with
  | nil => rfl
  | cons hm _ ih =>
    obtain ⟨ht⟩ := hm
    rw [List.map_cons, ih, Direction.ofValue_of_spells ht]
    rfl

/-! ## Orders -/

/-- What writes an order is resolved to the order. -/
theorem Writes.resolve (strict : Bool) (h : Writes order raw) (hnames : ∀ o ∈ order, Identifier.IsName o.1) :
    resolve strict raw = .ok (order.map plain) := by
  cases h with
  | @list items h =>
    cases items with
    | nil => cases h; rfl
    | cons v r => exact ofItems_of_isItem strict h hnames
  | @tuple items h =>
    cases items with
    | nil => cases h; rfl
    | cons v r => exact ofItems_of_isItem strict h hnames
  | @map members h =>
    cases members with
    | nil => cases h; rfl
    | cons m r => exact congrArg Except.ok (map_of_isMember h)
  | @tokens ts h =>
    have hread := filterMap_ofToken? h hnames
    cases ts with
    | nil => cases h; rfl
    | cons t r =>
      have hpieces : commaPieces (",".intercalate (t :: r)) = t :: r :=
        commaPieces_intercalate (List.cons_ne_nil _ _) (comma_not_mem_of_isToken h hnames)
      have hgiven : (Value.text (",".intercalate (t :: r))).isGiven = true := by
        -- The empty text is one token that names no field.
        simp only [Value.isGiven, bne_iff_ne]
        intro hempty
        rw [hempty] at hpieces
        rw [← hpieces] at hread
        cases h
        cases hread
      simp only [SortField.resolve, hgiven, hpieces, hread]
      rfl

theorem applyFields_plain (q : SelectQuery) (hnames : ∀ o ∈ order, Identifier.IsName o.1) :
    applyFields none q (order.map plain)
      = .ok { q with ordering := q.ordering ++ order.map fun o => .column o.1 o.2 } := by
  induction order generalizing q with
  | nil => simp [applyFields]
  | cons o r ih =>
    rw [List.forall_mem_cons] at hnames
    have haccepts : Identifier.accepts o.1 = true := Identifier.accepts_iff.2 ⟨o.1, hnames.1, .inl rfl⟩
    unfold applyFields at ih ⊢
    have horder : q.orderBy o.1 o.2 = .ok { q with ordering := q.ordering ++ [.column o.1 o.2] } :=
      Identifier.check_bind_eq_ok.2 ⟨haccepts, rfl⟩
    rw [List.map_cons, List.foldlM_cons]
    change q.orderBy o.1 o.2 >>= _ = _
    rw [horder, ok_bind, ih _ hnames.2]
    simp

/-- A map of fields to directions is an order by all of them. -/
theorem apply_map (strict : Bool) (q : SelectQuery) (members : Members) :
    apply strict none q (.map members) = (Clause.orderByAll members).apply q := by
  have hresolve : SortField.resolve strict (.map members)
      = .ok (members.map fun m => ⟨m.1, Direction.ofValue m.2, .null⟩) := by
    cases members <;> rfl
  rw [apply, hresolve, ok_bind]
  change _ = q.orderByAll (members.map fun t => (t.1, Direction.ofValue t.2))
  rw [applyFields, SelectQuery.orderByAll, List.foldlM_map, List.foldlM_map]
  rfl

/-- However an order is written, in strict mode or not, it is resolved to its fields with their directions, and
applied it adds them to the order of a query one after another.  A map may be given to the query itself as
well. -/
theorem resolve_of_writes (strict : Bool) (h : Writes order raw) (hnames : ∀ o ∈ order, Identifier.IsName o.1)
    (q : SelectQuery) :
    resolve strict raw = .ok (order.map plain) ∧
    (∃ q', apply strict none q raw = .ok q' ∧
      q' = { q with ordering := q.ordering ++ order.map fun o => .column o.1 o.2 } ∧
      q'.ordering.map OrderTerm.text
        = q.ordering.map OrderTerm.text ++ order.map fun o => o.1 ++ " " ++ o.2.keyword) ∧
    ∀ members, raw = .map members → (Clause.orderByAll members).apply q = apply strict none q raw := by
  have hresolve := h.resolve strict hnames
  refine ⟨hresolve, ⟨_, ?_, rfl, ?_⟩, ?_⟩
  · rw [apply, hresolve, ok_bind, applyFields_plain q hnames]
  · rw [List.map_append, List.map_map]
    rfl
  · rintro members rfl
    exact (apply_map strict q members).symm

/-- The newest first, and by name among the equally new. -/
def newestFirst : List (String × Direction) := [("created_at", .descending), ("users.name", .ascending)]

/-- Tokens with spaces, an object beside a token, and a map are one order. -/
theorem resolve_newestFirst :
    resolve true (.text "\t- created_at , users.name") = .ok (newestFirst.map plain) ∧
    resolve false (.list [
      .map [("direction", .text " dEsc\n"), ("field", .text "created_at")],
      .text "users.name"]) = .ok (newestFirst.map plain) ∧
    ∃ q, apply true none SelectQuery.allOrders (.map [
        ("created_at", .text "Desc"), ("users.name", .text "asc")]) = .ok q ∧
      q.ordering.map OrderTerm.text = ["created_at DESC", "users.name ASC"] := by
  have hnames : ∀ o ∈ newestFirst, Identifier.IsName o.1 := by
    intro o ho
    refine Identifier.isDotted_iff.1 ?_
    revert o
    decide
  have htokens : Writes newestFirst
      (.text (",".intercalate ["\t" ++ "-" ++ " " ++ "created_at" ++ " ", " " ++ "users.name" ++ ""])) :=
    .tokens (.cons (.descending rfl rfl rfl) (.cons (.ascending rfl rfl) .nil))
  have hdescending : Direction.descending.Spells (" " ++ "dEsc" ++ "\n") := .padded rfl rfl rfl
  have hname : IsToken ("users.name", .ascending) ("" ++ "users.name" ++ "") := .ascending rfl rfl
  have hlist : Writes newestFirst (.list [
      .map [("direction", .text " dEsc\n"), ("field", .text "created_at")],
      .text "users.name"]) :=
    .list (.cons (.map ⟨rfl, ⟨_, rfl, hdescending⟩, rfl⟩) (.cons (.token hname) .nil))
  have hmap : Writes newestFirst (.map [("created_at", .text "Desc"), ("users.name", .text "asc")]) :=
    .map (.cons (.named (Direction.spells_word rfl)) (.cons (.named (Direction.spells_word rfl)) .nil))
  obtain ⟨q, hq, rfl, htext⟩ := (resolve_of_writes true hmap hnames SelectQuery.allOrders).2.1
  exact ⟨(resolve_of_writes true htokens hnames SelectQuery.allOrders).1,
    (resolve_of_writes false hlist hnames SelectQuery.allOrders).1, _, hq, htext⟩

end SortField

end PagedSelect
