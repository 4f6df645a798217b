import PagedSelect.Proofs.Identifier
import PagedSelect.Proofs.Select.Invariant
import PagedSelect.Proofs.Text.Token
import PagedSelect.Select.Text
/-!
# Tokens of a statement

What `SelectQuery.sql` writes, token by token.  An identifier, a keyword, a comparison, a parameter and
a number are never broken in two, so `tokens_sql` reads the clauses off the tokens of the text.
-/

namespace PagedSelect

open Text

/-- A mark for parameters that nothing else in a statement can be taken for. -/
structure IsParamMark (mark : String) : Prop where
  ne_empty : mark ≠ ""
  not_part : ∀ c ∈ mark.toList, Identifier.isPart c = false
  not_space : ∀ c ∈ mark.toList, isSpace c = false
  not_punctuation : ∀ c ∈ mark.toList, c ∉ [',', '.', '(', ')']

theorem isParamMark_colon : IsParamMark ":" := by
  have hcolon {c : Char} (hc : c ∈ ":".toList) : c = ':' := List.mem_singleton.1 hc
  refine ⟨by decide, fun c hc => ?_, fun c hc => ?_, fun c hc => ?_⟩ <;> rw [hcolon hc]
  · rfl
  · rfl
  · decide

/-! ## Texts of one token -/

theorem eq_of_isBreak {c : Char} (h : isBreak c = true) : c = ' ' ∨ c ∈ [',', '.', '(', ')'] := by
  simp only [isBreak, isMark, Bool.or_eq_true, beq_iff_eq] at h
  rcases h with rfl | (rfl | rfl) | rfl <;> simp

theorem isBreak_of_isChar {c : Char} (h : Identifier.isChar c = true) : isBreak c = false := by
  refine Bool.eq_false_iff.2 fun hb => ?_
  simp only [isBreak, isMark, Bool.or_eq_true, beq_iff_eq] at hb
  rcases hb with rfl | (rfl | rfl) | rfl <;> revert h <;> decide

theorem tokens_identifier {s : String} (h : Identifier.accepts s = true) : tokens s = [s.toList] := by
  obtain ⟨hne, hs⟩ := Identifier.chars_of_accepts h
  exact tokens_word hne fun c hc => isBreak_of_isChar (hs c hc)

theorem toDigits_injective {m n : Nat} (h : Nat.toDigits 10 m = Nat.toDigits 10 n) : m = n := by
  have hd := congrArg (fun ds => Nat.ofDigitChars 10 ds 0) h
  simpa using hd

/-- No two parameters have one name. -/
theorem paramName_injective {m n : Nat} (h : paramName m = paramName n) : m = n := by
  have hd := congrArg String.toList h
  simp only [paramName, String.toList_append] at hd
  exact toDigits_injective (by simpa using List.append_cancel_left hd)

theorem toList_paramText (mark : String) (n : Nat) :
    (paramText mark n).toList = mark.toList ++ 'p' :: Nat.toDigits 10 n := by
  simp [paramText, paramName]

theorem isBreak_of_isDigit {c : Char} (h : c.isDigit = true) : isBreak c = false :=
  isBreak_of_isChar (by simp [Identifier.isChar, Identifier.isPart, h])

theorem IsParamMark.not_break {mark : String} (h : IsParamMark mark) :
    ∀ c ∈ mark.toList, isBreak c = false := by
  intro c hc
  refine Bool.eq_false_iff.2 fun hb => ?_
  rcases eq_of_isBreak hb with rfl | hp
  · exact absurd (h.not_space ' ' hc) (by decide)
  · exact h.not_punctuation c hc hp

theorem tokens_paramText {mark : String} (h : IsParamMark mark) (n : Nat) :
    tokens (paramText mark n) = [(paramText mark n).toList] := by
  refine tokens_word (fun he => ?_) (fun c hc => ?_)
  · have := congrArg String.toList he
    simp [toList_paramText] at this
  · rw [toList_paramText] at hc
    rcases List.mem_append.1 hc with hc | hc
    · exact h.not_break c hc
    · rcases List.mem_cons.1 hc with rfl | hc
      · rfl
      · exact isBreak_of_isDigit (Nat.isDigit_of_mem_toDigits (by omega) (by omega) hc)

theorem isDigit_of_mem_toString {n : Nat} {c : Char} (h : c ∈ (toString n).toList) : c.isDigit = true := by
  have hc : c ∈ Nat.toDigits 10 n := by simpa using h
  exact Nat.isDigit_of_mem_toDigits (by omega) (by omega) hc

/-- Whole numbers are written with digits and a minus sign. -/
theorem chars_of_whole (i : Int) : ∀ c ∈ (toString i).toList, c.isDigit = true ∨ c = '-' := by
  intro c hc
  cases i with
  | ofNat n => exact .inl (isDigit_of_mem_toString hc)
  | negSucc n =>
    change c ∈ ("-" ++ toString (n + 1)).toList at hc
    rw [String.toList_append] at hc
    rcases List.mem_append.1 hc with hc | hc
    · exact .inr (by simpa using hc)
    · exact .inl (isDigit_of_mem_toString hc)

theorem tokens_whole (i : Int) : tokens (toString i) = [(toString i).toList] := by
  refine tokens_word (fun he => ?_) (fun c hc => ?_)
  · have := congrArg String.toList he
    cases i with
    | ofNat n => simp [toString, Int.repr, Nat.toList_repr] at this
    | negSucc n => simp [toString, Int.repr] at this
  · rcases chars_of_whole i c hc with h | rfl
    · exact isBreak_of_isDigit h
    · rfl

/-! ## Clauses -/

/-- A parameter as a token. -/
def paramToken (placeholder : String) (n : Nat) : Token := (paramText placeholder n).toList

/-- Parts with a token between them. -/
def separated (sep : Token) (parts : List (List Token)) : List Token := [sep].intercalate parts

/-- The tokens of a predicate. -/
def Predicate.tokens (placeholder : String) : Predicate → List Token
  | comparison field op n => field.toList :: (Text.tokens op.symbol ++ [paramToken placeholder n])
  | membership field ns => field.toList :: "IN".toList :: ['('] ::
      (separated [','] (ns.map fun n => [paramToken placeholder n]) ++ [[')']])
  | range field low high =>
    [field.toList, "BETWEEN".toList, paramToken placeholder low, "AND".toList, paramToken placeholder high]
  | missing field => [field.toList, "IS".toList, "NULL".toList]
  | present field => [field.toList, "IS".toList, "NOT".toList, "NULL".toList]
  | anyLike fields n => ['('] ::
      (separated "OR".toList (fields.map fun f => [f.toList, "LIKE".toList, paramToken placeholder n]) ++ [[')']])
  | given text => Text.tokens text

/-- The tokens of an order term. -/
def OrderTerm.tokens : OrderTerm → List Token
  | column field direction => [field.toList, direction.keyword.toList]
  | given text => Text.tokens text

/-- The tokens of a projection. -/
def Projection.tokens : Projection → List Token
  | columns names => separated [','] (names.map fun n => [n.toList])
  | count label => ["COUNT".toList, ['('], ['1'], [')'], "AS".toList, label.toList]

/-- The tokens of a clause with a list; none if the list is empty. -/
def listTokens (keyword : String) (sep : Token) : List (List Token) → List Token
  | [] => []
  | parts => Text.tokens keyword ++ separated sep parts

theorem listTokens_cons {keyword : String} {w : List Token} (hk : Text.tokens keyword = w) (sep : Token)
    (p : List Token) (ps : List (List Token)) :
    listTokens keyword sep (p :: ps) = w ++ separated sep (p :: ps) := by
  rw [← hk]
  rfl

/-- The tokens of a clause with an amount; none if there is no amount. -/
def amountTokens (keyword : String) : Option Quantity → List Token
  | none => []
  | some n =>
    match n.truncate with
    | .ok i => [keyword.toList, (toString i).toList]
    | .error _ => []

/-- The tokens of a statement. -/
def SelectQuery.tokens (q : SelectQuery) : List Token :=
  "SELECT".toList :: (q.projection.tokens ++ ("FROM".toList :: q.table.toList ::
    (listTokens "WHERE" "AND".toList (q.predicates.map (Predicate.tokens q.placeholder))
      ++ listTokens "ORDER BY" [','] (q.ordering.map OrderTerm.tokens)
      ++ amountTokens "LIMIT" q.limit ++ amountTokens "OFFSET" q.offset)))

variable {mark : String}

theorem tokens_symbol_around (s : String) (op : Comparison) (t : String) :
    tokens (s ++ " " ++ op.symbol ++ " " ++ t) = tokens s ++ tokens op.symbol ++ tokens t := by
  rw [tokens_around rfl rfl, tokens_around rfl rfl]
  simp [show tokens " " = [] from rfl]

theorem Predicate.tokens_text (hm : IsParamMark mark) {p : Predicate} (hp : p.WellFormed) :
    Text.tokens (p.text mark) = p.tokens mark := by
  cases p with
  | comparison field op n =>
    rw [Predicate.text, tokens_symbol_around, tokens_identifier hp, tokens_paramText hm]
    simp [Predicate.tokens, paramToken]
  | membership field ns =>
    rw [Predicate.text, tokens_append_left rfl, tokens_around rfl rfl,
      tokens_identifier hp.1, tokens_intercalate rfl rfl]
    simp [Predicate.tokens, separated, paramToken, Function.comp_def, tokens_paramText hm,
      show Text.tokens " IN (" = ["IN".toList, ['(']] from rfl,
      show Text.tokens ", " = [[',']] from rfl, show Text.tokens ")" = [[')']] from rfl]
  | range field low high =>
    rw [Predicate.text, tokens_around rfl rfl, tokens_around rfl rfl,
      tokens_identifier hp, tokens_paramText hm, tokens_paramText hm]
    simp [Predicate.tokens, paramToken, show Text.tokens " BETWEEN " = ["BETWEEN".toList] from rfl,
      show Text.tokens " AND " = ["AND".toList] from rfl]
  | missing field =>
    rw [Predicate.text, tokens_append_left rfl, tokens_identifier hp]
    simp [Predicate.tokens, show Text.tokens " IS NULL" = ["IS".toList, "NULL".toList] from rfl]
  | present field =>
    rw [Predicate.text, tokens_append_left rfl, tokens_identifier hp]
    simp [Predicate.tokens,
      show Text.tokens " IS NOT NULL" = ["IS".toList, "NOT".toList, "NULL".toList] from rfl]
  | anyLike fields n =>
    have hf : fields.map (fun f => Text.tokens (f ++ " LIKE " ++ paramText mark n))
        = fields.map fun f => [f.toList, "LIKE".toList, paramToken mark n] := by
      refine List.map_congr_left fun f hf => ?_
      rw [tokens_around rfl rfl, tokens_identifier (hp.2 f hf), tokens_paramText hm]
      simp [paramToken, show Text.tokens " LIKE " = ["LIKE".toList] from rfl]
    rw [Predicate.text, tokens_append_left rfl, tokens_append_right rfl,
      tokens_intercalate rfl rfl, List.map_map, Function.comp_def, hf]
    simp [Predicate.tokens, separated, show Text.tokens "(" = [['(']] from rfl,
      show Text.tokens " OR " = ["OR".toList] from rfl, show Text.tokens ")" = [[')']] from rfl]
  | given text => exact hp.elim

theorem OrderTerm.tokens_text {t : OrderTerm} (ht : t.WellFormed) : Text.tokens t.text = t.tokens := by
  cases t with
  | column field direction =>
    have hd : Text.tokens direction.keyword = [direction.keyword.toList] := by cases direction <;> decide
    rw [OrderTerm.text, tokens_around rfl rfl, tokens_identifier ht, hd]
    simp [OrderTerm.tokens, show Text.tokens " " = [] from rfl]
  | given text => exact ht.elim

theorem Projection.tokens_texts {p : Projection} (hp : p.WellFormed) :
    Text.tokens (", ".intercalate p.texts) = p.tokens := by
  cases p with
  | columns names =>
    have hn : names.map Text.tokens = names.map fun n => [n.toList] := by
      refine List.map_congr_left fun n hn => ?_
      rcases hp.2 n hn with rfl | h
      · decide
      · exact tokens_identifier h
    rw [Projection.texts, tokens_intercalate rfl rfl, hn]
    rfl
  | count label =>
    have hc : Text.tokens ("COUNT(1) AS " ++ label)
        = ["COUNT".toList, ['('], ['1'], [')'], "AS".toList] ++ Text.tokens label :=
      tokens_append_right rfl
    rw [Projection.texts, String.intercalate_singleton, hc, tokens_identifier hp]
    rfl

/-! ## Statements -/

theorem nil_intercalate {α : Type} (parts : List (List α)) : [].intercalate parts = parts.flatten := by
  induction parts with
  | nil => rfl
  | cons a r ih =>
    cases r with
    | nil => simp
    | cons b r => rw [List.intercalate_cons_cons, ih]; simp

theorem tokens_spaced (ss : List String) : tokens (" ".intercalate ss) = ss.flatMap tokens := by
  rw [tokens_intercalate rfl rfl, show tokens " " = [] from rfl, nil_intercalate]
  exact List.flatten_eq_flatMap.trans (by rw [List.flatMap_map]; rfl)

theorem tokens_listClause (keyword sep : String) (w : Token) (hl : startsBroken sep = true)
    (hr : endsBroken sep = true) (hw : tokens sep = [w]) (ss : List String) :
    (listClause keyword sep ss).flatMap tokens = listTokens keyword w (ss.map tokens) := by
  cases ss with
  | nil => rfl
  | cons s r =>
    rw [listClause, List.flatMap_singleton, tokens_around rfl rfl,
      tokens_intercalate hl hr, hw]
    · simp [listTokens, separated, show tokens " " = [] from rfl]
    · simp

theorem tokens_amountClause {keyword : String} (hk : tokens keyword = [keyword.toList])
    {n : Option Quantity} {clause : List String} (h : amountClause keyword n = .ok clause) :
    clause.flatMap tokens = amountTokens keyword n := by
  cases n with
  | none => cases h; rfl
  | some n =>
    obtain ⟨s, hs, rfl⟩ := map_eq_ok.1 h
    unfold Quantity.written at hs
    cases ht : n.truncate with
    | error e => rw [ht] at hs; cases hs
    | ok i =>
      rw [ht] at hs
      -- A clause was written, so the whole part has few enough digits.
      simp only [writeWhole, Numeral.write?] at hs
      split at hs
      · rename_i hw
        split at hw
        · cases hw
        · cases hw; cases hs
          rw [List.flatMap_singleton, tokens_around rfl rfl, hk, tokens_whole]
          simp [amountTokens, ht, show tokens " " = [] from rfl]
      · cases hs

/-- A statement is read clause by clause from its tokens. -/
theorem SelectQuery.tokens_sql {A : Quantity → Prop} {q : SelectQuery} (hm : IsParamMark mark)
    (hq : q.WellFormed A mark) {s : String} (h : q.sql = .ok s) : Text.tokens s = q.tokens := by
  obtain ⟨limit, hlimit, h⟩ := bind_eq_ok.1 h
  obtain ⟨offset, hoffset, h⟩ := bind_eq_ok.1 h
  cases h
  have hpred : q.predicateTexts.map Text.tokens = q.predicates.map (Predicate.tokens q.placeholder) := by
    rw [predicateTexts, List.map_map, hq.placeholder_eq]
    exact List.map_congr_left fun p hp => Predicate.tokens_text hm (hq.predicates p hp)
  have horder : (q.ordering.map OrderTerm.text).map Text.tokens = q.ordering.map OrderTerm.tokens := by
    rw [List.map_map]
    exact List.map_congr_left fun t ht => OrderTerm.tokens_text (hq.ordering t ht)
  have hhead : Text.tokens q.headClause
      = "SELECT".toList :: (q.projection.tokens ++ ["FROM".toList, q.table.toList]) := by
    rw [headClause, tokens_around rfl rfl, tokens_append_right rfl,
      Projection.tokens_texts hq.projection, tokens_identifier hq.table]
    simp [show Text.tokens "SELECT " = ["SELECT".toList] from rfl,
      show Text.tokens " FROM " = ["FROM".toList] from rfl]
  -- There is a space between any two clauses, so each is read by itself.
  rw [tokens_spaced]
  simp only [List.cons_append, List.flatMap_cons, List.flatMap_append, hhead,
    tokens_listClause "WHERE" " AND " "AND".toList rfl rfl rfl,
    tokens_listClause "ORDER BY" ", " [','] rfl rfl rfl,
    tokens_amountClause rfl hlimit, tokens_amountClause rfl hoffset, hpred, horder]
  simp [SelectQuery.tokens]

end PagedSelect
