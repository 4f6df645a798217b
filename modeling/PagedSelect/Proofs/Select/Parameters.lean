import PagedSelect.Proofs.Keyed
import PagedSelect.Proofs.Select.Token
import PagedSelect.Proofs.Text.Mention
/-!
# Parameters of a statement

The parameters that the text of a statement mentions, each counted where it first stands, are those
that have a binding, in the order of their numbers.  Fields, keywords, comparisons and amounts mention
none; a predicate mentions its own, one of them several times if it searches several fields.
-/

namespace PagedSelect

open Text

variable {mark : String}

/-! ## Lists without repetition -/

theorem eraseDups_of_nodup {α : Type} [BEq α] [LawfulBEq α] {l : List α} (h : l.Nodup) : l.eraseDups = l := by
  induction l with
  | nil => rfl
  | cons a r ih =>
    rw [List.nodup_cons] at h
    have hr : r.filter (fun b => !b == a) = r := by
      refine List.filter_eq_self.2 fun b hb => ?_
      have hba : b ≠ a := fun hba => h.1 (hba ▸ hb)
      simp [hba]
    rw [List.eraseDups_cons, hr, ih h.2]

/-- Repetitions inside the lists that are joined leave no trace. -/
theorem eraseDups_flatMap {α β : Type} [BEq β] [LawfulBEq β] {f g : α → List β} {l : List α}
    (hfg : ∀ a ∈ l, (f a).eraseDups = g a) (h : (l.flatMap g).Nodup) :
    (l.flatMap f).eraseDups = l.flatMap g := by
  induction l with
  | nil => rfl
  | cons a r ih =>
    rw [List.flatMap_cons, List.nodup_append] at h
    have mem {x : α} (hx : x ∈ a :: r) (b : β) : b ∈ f x ↔ b ∈ g x := by
      rw [← hfg x hx, List.mem_eraseDups]
    -- The first list erases nothing from the others, since they have no element of it.
    have hapart : (r.flatMap f).removeAll (f a) = r.flatMap f := by
      refine List.filter_eq_self.2 fun b hb => ?_
      obtain ⟨x, hx, hbx⟩ := List.mem_flatMap.1 hb
      have hbg : b ∈ r.flatMap g := List.mem_flatMap.2 ⟨x, hx, (mem (by simp [hx]) b).1 hbx⟩
      have hba : b ∉ f a := fun hba => h.2.2 b ((mem (by simp) b).1 hba) b hbg rfl
      simpa using hba
    rw [List.flatMap_cons, List.flatMap_cons, List.eraseDups_append, hapart, hfg a (by simp),
      ih (fun x hx => hfg x (by simp [hx])) h.2.1]

/-! ## Names -/

theorem nodup_paramNames (n : Nat) : ((List.range n).map paramName).Nodup := by
  refine List.pairwise_map.2 (List.Pairwise.imp (fun hne h => ?_) List.nodup_range)
  exact hne (paramName_injective h)

/-! ## Tokens that mention nothing -/

theorem IsParamMark.ne_nil (hm : IsParamMark mark) : mark.toList ≠ [] := fun h =>
  hm.ne_empty (String.toList_eq_nil_iff.1 h)

/-- What an identifier is made of does not occur in a mark. -/
theorem IsParamMark.not_mem_of_isChar (hm : IsParamMark mark) {c : Char} (hc : Identifier.isChar c = true) :
    c ∉ mark.toList := by
  intro h
  simp only [Identifier.isChar, Bool.or_eq_true, beq_iff_eq] at hc
  rcases hc with (hc | rfl) | rfl
  · rw [hm.not_part c h] at hc
    exact absurd hc (by decide)
  · exact hm.not_punctuation '.' h (by simp)
  · exact absurd (hm.not_space _ h) (by decide)

theorem mentions_identifier (hm : IsParamMark mark) {s : String} (h : Identifier.accepts s = true) :
    mentions mark.toList s.toList = [] :=
  mentions_of_disjoint hm.ne_nil fun c hc => hm.not_mem_of_isChar ((Identifier.chars_of_accepts h).2 c hc)

theorem mentions_paramToken (hm : IsParamMark mark) (n : Nat) :
    mentions mark.toList (paramToken mark n) = [paramName n] := by
  have hdigit : ∀ c ∈ Nat.toDigits 10 n, c.isDigit = true := fun c hc =>
    Nat.isDigit_of_mem_toDigits (by omega) (by omega) hc
  have hpart : ∀ c ∈ 'p' :: Nat.toDigits 10 n, c ∉ mark.toList := by
    intro c hc
    refine hm.not_mem_of_isChar ?_
    rcases List.mem_cons.1 hc with rfl | hc
    · decide
    · simp [Identifier.isChar, Identifier.isPart, hdigit c hc]
  have hne : Nat.toDigits 10 n ≠ [] := by simp
  have hname : String.ofList ('p' :: Nat.toDigits 10 n) = paramName n := by
    rw [← String.toList_inj]
    simp [paramName]
  rw [paramToken, toList_paramText, mentions_param hm.ne_nil hpart hdigit hne, hname]

theorem mentions_whole (i : Int) : mentions mark.toList (toString i).toList = [] := by
  refine mentions_of_not_mem fun hp => ?_
  rcases chars_of_whole i 'p' hp with h | h
  · exact absurd h (by decide)
  · exact absurd h (by decide)

/-! ## Clauses -/

theorem mentions_separated {sep : Token} (hsep : mentions mark.toList sep = []) (parts : List (List Token)) :
    (separated sep parts).flatMap (mentions mark.toList)
      = parts.flatMap fun p => p.flatMap (mentions mark.toList) := by
  unfold separated
  induction parts with
  | nil => rfl
  | cons p r ih =>
    cases r with
    | nil => simp
    | cons p' r =>
      rw [List.intercalate_cons_cons, List.flatMap_append, List.flatMap_append, ih, List.flatMap_singleton, hsep]
      simp

/-- The parameters that a predicate mentions, as often as it does. -/
def Predicate.mentioned : Predicate → List Nat
  | anyLike fields n => fields.map fun _ => n
  | p => p.params

theorem Predicate.mentions_tokens (hm : IsParamMark mark) {p : Predicate} (hp : p.WellFormed) :
    (p.tokens mark).flatMap (mentions mark.toList) = p.mentioned.map paramName := by
  cases p with
  | comparison f op n =>
    have hop : (Text.tokens op.symbol).flatMap (mentions mark.toList) = [] :=
      List.flatMap_eq_nil_iff.2 fun w hw => mentions_of_not_mem (by revert w; cases op <;> decide)
    simp [Predicate.tokens, mentioned, params, mentions_identifier hm hp, hop, mentions_paramToken hm]
  | membership f ns =>
    have hcomma : mentions mark.toList [','] = [] := mentions_of_not_mem (by decide)
    simp [Predicate.tokens, mentioned, params, mentions_identifier hm hp.1, mentions_paramToken hm,
      mentions_separated hcomma, mentions_of_not_mem, List.flatMap_map, ← List.map_eq_flatMap]
  | range f low high =>
    simp [Predicate.tokens, mentioned, params, mentions_identifier hm hp, mentions_paramToken hm,
      mentions_of_not_mem]
  | missing f => simp [Predicate.tokens, mentioned, params, mentions_identifier hm hp, mentions_of_not_mem]
  | present f => simp [Predicate.tokens, mentioned, params, mentions_identifier hm hp, mentions_of_not_mem]
  | anyLike fs n =>
    have hor : mentions mark.toList "OR".toList = [] := mentions_of_not_mem (by decide)
    have hlike : fs.map (fun f => [f.toList, "LIKE".toList, paramToken mark n].flatMap (mentions mark.toList))
        = fs.map fun _ => [paramName n] := by
      refine List.map_congr_left fun f hf => ?_
      simp [mentions_identifier hm (hp.2 f hf), mentions_paramToken hm, mentions_of_not_mem]
    have hall : (fs.map fun f => [f.toList, "LIKE".toList, paramToken mark n]).flatMap
        (fun p => p.flatMap (mentions mark.toList)) = fs.map fun _ => paramName n := by
      rw [List.flatMap_map, List.flatMap_def, hlike, ← List.flatMap_def, ← List.map_eq_flatMap]
    simp only [Predicate.tokens, List.flatMap_cons, List.flatMap_append, List.flatMap_nil,
      mentions_separated hor, hall]
    simp [mentioned, mentions_of_not_mem]
  | given text => exact hp.elim

theorem OrderTerm.mentions_tokens (hm : IsParamMark mark) {t : OrderTerm} (ht : t.WellFormed) :
    t.tokens.flatMap (mentions mark.toList) = [] := by
  cases t with
  | column f d =>
    have hd : mentions mark.toList d.keyword.toList = [] := mentions_of_not_mem (by cases d <;> decide)
    simp [OrderTerm.tokens, mentions_identifier hm ht, hd]
  | given text => exact ht.elim

theorem Projection.mentions_tokens (hm : IsParamMark mark) {p : Projection} (hp : p.WellFormed) :
    p.tokens.flatMap (mentions mark.toList) = [] := by
  cases p with
  | columns names =>
    have hcomma : mentions mark.toList [','] = [] := mentions_of_not_mem (by decide)
    rw [Projection.tokens, mentions_separated hcomma, List.flatMap_map, List.flatMap_eq_nil_iff]
    intro n hn
    rw [List.flatMap_singleton]
    rcases hp.2 n hn with rfl | hn
    · exact mentions_of_not_mem (by decide)
    · exact mentions_identifier hm hn
  | count label => simp [Projection.tokens, mentions_identifier hm hp, mentions_of_not_mem]

theorem mentions_listTokens {keyword : String} {sep : Token} (hk : 'p' ∉ (tokens keyword).flatten)
    (hsep : 'p' ∉ sep) (parts : List (List Token)) :
    (listTokens keyword sep parts).flatMap (mentions mark.toList)
      = parts.flatMap fun p => p.flatMap (mentions mark.toList) := by
  cases parts with
  | nil => rfl
  | cons p r =>
    have hfree : (tokens keyword).flatMap (mentions mark.toList) = [] := by
      refine List.flatMap_eq_nil_iff.2 fun w hw => mentions_of_not_mem fun hp => ?_
      exact hk (List.mem_flatten.2 ⟨w, hw, hp⟩)
    rw [listTokens_cons rfl, List.flatMap_append, hfree, mentions_separated (mentions_of_not_mem hsep),
      List.nil_append]

theorem mentions_amountTokens {keyword : String} (hk : 'p' ∉ keyword.toList) (n : Option Quantity) :
    (amountTokens keyword n).flatMap (mentions mark.toList) = [] := by
  unfold amountTokens
  split
  · rfl
  · split
    · rename_i i _
      rw [List.flatMap_cons, List.flatMap_singleton, mentions_of_not_mem hk, mentions_whole, List.nil_append]
    · rfl

/-! ## Statements -/

/-- A statement mentions what its predicates mention. -/
theorem SelectQuery.mentions_tokens {A : Quantity → Prop} {q : SelectQuery} (hm : IsParamMark mark)
    (hq : q.WellFormed A mark) : q.tokens.flatMap (mentions mark.toList)
      = q.predicates.flatMap fun p => p.mentioned.map paramName := by
  have hpred : (q.predicates.map (Predicate.tokens mark)).flatMap (fun p => p.flatMap (mentions mark.toList))
      = q.predicates.flatMap fun p => p.mentioned.map paramName := by
    rw [List.flatMap_map, List.flatMap_def, List.flatMap_def]
    exact congrArg List.flatten
      (List.map_congr_left fun p hp => Predicate.mentions_tokens hm (hq.predicates p hp))
  have horder : (q.ordering.map OrderTerm.tokens).flatMap (fun p => p.flatMap (mentions mark.toList)) = [] := by
    rw [List.flatMap_map]
    exact List.flatMap_eq_nil_iff.2 fun t ht => OrderTerm.mentions_tokens hm (hq.ordering t ht)
  simp only [SelectQuery.tokens, List.flatMap_cons, List.flatMap_append, hq.placeholder_eq,
    Projection.mentions_tokens hm hq.projection, mentions_identifier hm hq.table]
  rw [mentions_listTokens (by decide) (by decide), mentions_listTokens (by decide) (by decide),
    mentions_amountTokens (by decide), mentions_amountTokens (by decide), hpred, horder]
  simp [mentions_of_not_mem]

theorem Predicate.eraseDups_mentioned {p : Predicate} (hp : p.WellFormed) (hnd : p.params.Nodup) :
    (p.mentioned.map paramName).eraseDups = p.params.map paramName := by
  have hparams : (p.params.map paramName).Nodup :=
    List.pairwise_map.2 (hnd.imp fun hne h => hne (paramName_injective h))
  cases p with
  | anyLike fs n =>
    obtain ⟨f, r, rfl⟩ := List.exists_cons_of_ne_nil hp.1
    have hr : (r.map fun _ => paramName n).filter (fun b => !b == paramName n) = [] := by simp
    simp only [mentioned, params, List.map_cons, List.map_map, List.eraseDups_cons, Function.comp_def, hr]
    rfl
  | _ => exact eraseDups_of_nodup hparams

namespace SelectQuery

variable {A : Quantity → Prop} {q : SelectQuery}

/-- The parameters that a statement mentions are its bindings, in order. -/
theorem WellFormed.mentions_eraseDups (hm : IsParamMark mark) (hq : q.WellFormed A mark) {text : String}
    (h : q.sql = .ok text) : (mentions mark.toList text.toList).eraseDups = (List.range q.nextParam).map paramName := by
  have hall : q.predicates.flatMap (fun p => p.params.map paramName) = (List.range q.nextParam).map paramName := by
    rw [← hq.params, List.map_flatMap]
  have hnd : (q.predicates.flatMap Predicate.params).Nodup := by
    rw [hq.params]
    exact List.nodup_range
  rw [Text.mentions_tokens hm.not_break, tokens_sql hm hq h, mentions_tokens hm hq,
    eraseDups_flatMap (g := fun p => p.params.map paramName), hall]
  · intro p hp
    have hsub : p.params.Sublist (q.predicates.flatMap Predicate.params) :=
      List.sublist_flatten_of_mem (List.mem_map_of_mem hp)
    exact Predicate.eraseDups_mentioned (hq.predicates p hp) (hnd.sublist hsub)
  · rw [hall]
    exact nodup_paramNames q.nextParam

/-- There is a binding for each parameter. -/
theorem WellFormed.length_bindings (hq : q.WellFormed A mark) : q.bindings.length = q.nextParam := by
  have h := congrArg List.length hq.names
  simpa [Keyed.keys] using h

/-- No binding hides another. -/
theorem WellFormed.parameters_eq (hq : q.WellFormed A mark) : q.parameters = q.bindings := by
  refine ofList_of_nodup ?_
  rw [hq.names]
  exact nodup_paramNames q.nextParam

end SelectQuery

end PagedSelect
