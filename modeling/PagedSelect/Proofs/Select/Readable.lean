import PagedSelect.Proofs.Select.Token
/-!
# Parts of a statement read from the left

Every part of a statement ends where its own tokens say: no list can be taken to go on, because what
may follow it never starts with its separator, and no clause can be missed, because what may follow
it never starts with its keyword.
-/

namespace PagedSelect

open Text

variable {α : Type} {f : α → List Token} {P : α → Prop}

/-! ## Reading from the left -/

/-- Values whose tokens tell which value they are, whatever follows. -/
def Readable (f : α → List Token) (P : α → Prop) : Prop :=
  ∀ a b r s, P a → P b → f a ++ r = f b ++ s → a = b

theorem separated_cons (sep : Token) (x : List Token) (xs : List (List Token)) :
    separated sep (x :: xs) = x ++ xs.flatMap fun y => sep :: y := by
  unfold separated
  induction xs generalizing x with
  | nil => simp
  | cons y ys ih => rw [List.intercalate_cons_cons, ih]; simp

theorem Readable.followers (hf : Readable f P) {sep : Token} {as bs : List α} (ha : ∀ a ∈ as, P a)
    (hb : ∀ b ∈ bs, P b) {r s : List Token} (hr : r.head? ≠ some sep) (hs : s.head? ≠ some sep)
    (h : (as.map f).flatMap (fun y => sep :: y) ++ r = (bs.map f).flatMap (fun y => sep :: y) ++ s) :
    as = bs ∧ r = s := by
  -- Neither rest starts with the separator: where one list ends, the other cannot go on.
  induction as generalizing bs with
  | nil =>
    cases bs with
    | nil => exact ⟨rfl, by simpa using h⟩
    | cons b bs => simp [show r = _ from h] at hr
  | cons a as ih =>
    cases bs with
    | nil => simp [show s = _ from h.symm] at hs
    | cons b bs =>
      simp only [List.map_cons, List.flatMap_cons, List.cons_append, List.append_assoc, List.cons.injEq,
        true_and] at h
      obtain rfl := hf a b _ _ (ha a (by simp)) (hb b (by simp)) h
      obtain ⟨rfl, hrs⟩ := ih (fun x hx => ha x (by simp [hx])) (fun x hx => hb x (by simp [hx]))
        (List.append_cancel_left h)
      exact ⟨rfl, hrs⟩

/-- A list is read to its end if its separator does not follow it. -/
theorem Readable.separated (hf : Readable f P) {sep : Token} {as bs : List α} (ha : ∀ a ∈ as, P a)
    (hb : ∀ b ∈ bs, P b) (hane : as ≠ []) (hbne : bs ≠ []) {r s : List Token} (hr : r.head? ≠ some sep)
    (hs : s.head? ≠ some sep) (h : separated sep (as.map f) ++ r = separated sep (bs.map f) ++ s) :
    as = bs ∧ r = s := by
  obtain ⟨a, as, rfl⟩ := List.exists_cons_of_ne_nil hane
  obtain ⟨b, bs, rfl⟩ := List.exists_cons_of_ne_nil hbne
  rw [List.map_cons, List.map_cons, separated_cons, separated_cons, List.append_assoc, List.append_assoc] at h
  obtain rfl := hf a b _ _ (ha a (by simp)) (hb b (by simp)) h
  obtain ⟨rfl, hrs⟩ := hf.followers (fun x hx => ha x (by simp [hx])) (fun x hx => hb x (by simp [hx]))
    hr hs (List.append_cancel_left h)
  exact ⟨rfl, hrs⟩

/-! ## Numbers and parameters -/

theorem toString_whole_injective {i j : Int} (hi : 0 ≤ i) (hj : 0 ≤ j)
    (h : (toString i).toList = (toString j).toList) : i = j := by
  obtain ⟨m, rfl⟩ := Int.eq_ofNat_of_zero_le hi
  obtain ⟨n, rfl⟩ := Int.eq_ofNat_of_zero_le hj
  change (toString m).toList = (toString n).toList at h
  have hmn : m = n := toDigits_injective (by simpa using h)
  rw [hmn]

theorem paramToken_injective {mark : String} {m n : Nat} (h : paramToken mark m = paramToken mark n) :
    m = n := by
  unfold paramToken paramText at h
  rw [String.toList_append, String.toList_append] at h
  exact paramName_injective (String.toList_inj.1 (List.append_cancel_left h))

/-! ## Parts of a statement -/

theorem readable_text : Readable (fun s : String => [s.toList]) fun _ => True := by
  intro a b r s _ _ h
  exact String.toList_inj.1 (List.cons.inj h).1

theorem readable_param (mark : String) : Readable (fun n => [paramToken mark n]) fun _ => True := by
  intro a b r s _ _ h
  exact paramToken_injective (List.cons.inj h).1

theorem readable_like (mark : String) (n : Nat) :
    Readable (fun s : String => [s.toList, "LIKE".toList, paramToken mark n]) fun _ => True := by
  intro a b r s _ _ h
  exact String.toList_inj.1 (List.cons.inj h).1

theorem head_comparison (op : Comparison) (t : List Token) :
    (tokens op.symbol ++ t).head? = (tokens op.symbol).head? := by
  cases op <;> rfl

theorem head_symbol_ne (op : Comparison) {v : Option Token}
    (hv : v ∈ [none, some "IN".toList, some "BETWEEN".toList, some "IS".toList]) :
    (tokens op.symbol).head? ≠ v := by
  intro h
  rw [← h] at hv
  revert hv
  cases op <;> decide

theorem readable_comparison : Readable (fun op : Comparison => tokens op.symbol) fun _ => True := by
  intro a b r s _ _ h
  have hh := congrArg List.head? h
  rw [head_comparison, head_comparison] at hh
  revert hh
  cases a <;> cases b <;> decide

theorem ne_mark_of_accepts {s : String} (h : Identifier.accepts s = true) {c : Char}
    (hc : Identifier.isChar c = false) : s.toList ≠ [c] := by
  intro hs
  have := (Identifier.chars_of_accepts h).2 c (by simp [hs])
  simp [hc] at this

/-- The token behind the field of a predicate, which tells its form; none if it starts with a
parenthesis. -/
def Predicate.verb : Predicate → Option Token
  | comparison _ op _ => (Text.tokens op.symbol).head?
  | membership .. => some "IN".toList
  | range .. => some "BETWEEN".toList
  | missing _ | present _ => some "IS".toList
  | anyLike .. | given _ => none

theorem Predicate.verb_eq {mark : String} {p : Predicate} (hp : p.WellFormed) (r : List Token) :
    p.verb = if (p.tokens mark ++ r).head? = some ['('] then none else (p.tokens mark ++ r).tail.head? := by
  have field {f : String} (hf : Identifier.accepts f = true) : ¬ some f.toList = some ['('] := fun h =>
    ne_mark_of_accepts hf (by decide) (Option.some.inj h)
  cases p with
  | comparison f op n =>
    simp only [Predicate.tokens, List.cons_append, List.append_assoc, List.head?_cons, List.tail_cons,
      if_neg (field hp), head_comparison, verb]
  | membership f ns => simp [Predicate.tokens, verb, ne_mark_of_accepts hp.1 (c := '(') (by decide)]
  | range f low high => exact (if_neg (field hp)).symm
  | missing f => exact (if_neg (field hp)).symm
  | present f => exact (if_neg (field hp)).symm
  | anyLike fs n => rfl
  | given text => exact hp.elim

/-- A predicate ends where its tokens say. -/
theorem Predicate.readable (mark : String) : Readable (tokens mark) WellFormed := by
  intro p p' r s hp hp' h
  -- The verb tells most forms apart; the two that share one part at the token behind it.
  have hv : p.verb = p'.verb := by rw [p.verb_eq hp r, p'.verb_eq hp' s, h]
  cases p with
  | comparison f op n =>
    cases p' with
    | comparison f' op' n' =>
      simp only [Predicate.tokens, List.cons_append, List.cons.injEq, List.append_assoc] at h
      obtain ⟨hf, h⟩ := h
      obtain rfl := readable_comparison op op' _ _ trivial trivial h
      obtain rfl := readable_param mark n n' _ _ trivial trivial (List.append_cancel_left h)
      rw [String.toList_inj.1 hf]
    | _ => exact absurd hv (head_symbol_ne op (by simp [verb]))
  | membership f ns =>
    cases p' with
    | membership f' ns' =>
      simp only [Predicate.tokens, List.cons_append, List.cons.injEq, List.append_assoc, true_and] at h
      obtain ⟨rfl, -⟩ := (readable_param mark).separated (by simp) (by simp) hp.2 hp'.2
        (by simp) (by simp) h.2
      rw [String.toList_inj.1 h.1]
    | comparison f' op' n' => exact absurd hv.symm (head_symbol_ne op' (by simp [verb]))
    | _ => exact absurd hv (by simp [verb])
  | range f low high =>
    cases p' with
    | range f' low' high' =>
      simp only [Predicate.tokens, List.cons_append, List.cons.injEq] at h
      obtain ⟨hf, -, hl, -, hh, -⟩ := h
      rw [String.toList_inj.1 hf, paramToken_injective hl, paramToken_injective hh]
    | comparison f' op' n' => exact absurd hv.symm (head_symbol_ne op' (by simp [verb]))
    | _ => exact absurd hv (by simp [verb])
  | missing f =>
    cases p' with
    | missing f' => rw [String.toList_inj.1 (List.cons.inj h).1]
    | present f' =>
      obtain ⟨-, h⟩ := List.cons.inj h
      exact absurd (List.cons.inj (List.cons.inj h).2).1 (by decide)
    | comparison f' op' n' => exact absurd hv.symm (head_symbol_ne op' (by simp [verb]))
    | _ => exact absurd hv (by simp [verb])
  | present f =>
    cases p' with
    | present f' => rw [String.toList_inj.1 (List.cons.inj h).1]
    | missing f' =>
      obtain ⟨-, h⟩ := List.cons.inj h
      exact absurd (List.cons.inj (List.cons.inj h).2).1 (by decide)
    | comparison f' op' n' => exact absurd hv.symm (head_symbol_ne op' (by simp [verb]))
    | _ => exact absurd hv (by simp [verb])
  | anyLike fs n =>
    cases p' with
    | anyLike fs' n' =>
      simp only [Predicate.tokens, List.cons_append, List.cons.injEq, List.append_assoc, true_and] at h
      -- All fields share one parameter, which the first of them shows.
      obtain rfl : n = n' := by
        obtain ⟨f, fs, rfl⟩ := List.exists_cons_of_ne_nil hp.1
        obtain ⟨f', fs', rfl⟩ := List.exists_cons_of_ne_nil hp'.1
        rw [List.map_cons, List.map_cons, separated_cons, separated_cons] at h
        simp only [List.cons_append, List.cons.injEq] at h
        exact paramToken_injective h.2.2.1
      obtain ⟨rfl, -⟩ := (readable_like mark n).separated (by simp) (by simp) hp.1 hp'.1
        (by simp) (by simp) h
      rfl
    | comparison f' op' n' => exact absurd hv.symm (head_symbol_ne op' (by simp [verb]))
    | given text => exact hp'.elim
    | _ => exact absurd hv (by simp [verb])
  | given text => exact hp.elim

/-- An order term ends with its direction. -/
theorem OrderTerm.readable : Readable OrderTerm.tokens OrderTerm.WellFormed := by
  intro t t' r s ht ht' h
  cases t with
  | column f d =>
    cases t' with
    | column f' d' =>
      obtain ⟨hf, h⟩ := List.cons.inj h
      have hd : d.keyword.toList = d'.keyword.toList := (List.cons.inj h).1
      rw [String.toList_inj.1 hf]
      have hdd : d = d' := by
        revert hd
        cases d <;> cases d' <;> decide
      rw [hdd]
    | given text => exact ht'.elim
  | given text => exact ht.elim

/-! ## Clauses -/

/-- Tokens that are none, or start with one of some. -/
def StartsIn (ks : List Token) (r : List Token) : Prop := ∀ t ∈ r.head?, t ∈ ks

theorem StartsIn.nil (ks : List Token) : StartsIn ks [] := by simp [StartsIn]

theorem StartsIn.ne {ks r : List Token} (h : StartsIn ks r) {t : Token} (ht : t ∉ ks) : r.head? ≠ some t :=
  fun hr => ht (h t hr)

theorem StartsIn.listTokens {ks r : List Token} (h : StartsIn ks r) {keyword : String} {k : Token}
    {w : List Token} (hk : tokens keyword = k :: w) (sep : Token) (parts : List (List Token)) :
    StartsIn (k :: ks) (PagedSelect.listTokens keyword sep parts ++ r) := by
  intro t ht
  cases parts with
  | nil => exact List.mem_cons_of_mem _ (h t ht)
  | cons p ps =>
    rw [listTokens_cons hk] at ht
    simp only [List.cons_append, List.head?_cons, Option.mem_some] at ht
    simp [ht]

theorem StartsIn.amountTokens {ks r : List Token} (h : StartsIn ks r) (keyword : String)
    (n : Option Quantity) :
    StartsIn (keyword.toList :: ks) (PagedSelect.amountTokens keyword n ++ r) := by
  intro t ht
  unfold PagedSelect.amountTokens at ht
  split at ht
  · exact List.mem_cons_of_mem _ (h t ht)
  · split at ht
    · simp only [List.cons_append, List.head?_cons, Option.mem_some] at ht
      simp [ht]
    · exact List.mem_cons_of_mem _ (h t ht)

/-- A clause with a list is read to its end, and missed only if it is not there. -/
theorem Readable.listTokens (hf : Readable f P) {keyword : String} {k : Token} {w : List Token}
    (hk : tokens keyword = k :: w) {sep : Token} {as bs : List α} (ha : ∀ a ∈ as, P a) (hb : ∀ b ∈ bs, P b)
    {ks r s : List Token} (hr : StartsIn ks r) (hs : StartsIn ks s) (hks : k ∉ ks) (hsep : sep ∉ ks)
    (h : PagedSelect.listTokens keyword sep (as.map f) ++ r
      = PagedSelect.listTokens keyword sep (bs.map f) ++ s) :
    as = bs ∧ r = s := by
  cases as with
  | nil =>
    cases bs with
    | nil => exact ⟨rfl, h⟩
    | cons b bs =>
      rw [List.map_cons, listTokens_cons hk] at h
      exact absurd (congrArg List.head? h) (hr.ne hks)
  | cons a as =>
    cases bs with
    | nil =>
      rw [List.map_cons, listTokens_cons hk] at h
      exact absurd (congrArg List.head? h.symm) (hs.ne hks)
    | cons b bs =>
      rw [List.map_cons, List.map_cons, listTokens_cons hk, listTokens_cons hk, List.append_assoc,
        List.append_assoc] at h
      exact hf.separated ha hb (by simp) (by simp) (hr.ne hsep) (hs.ne hsep) (List.append_cancel_left h)

/-- An amount that is a whole number from zero on. -/
def Quantity.IsCount (n : Quantity) : Prop := ∃ i : Int, 0 ≤ i ∧ n.int? = some i

theorem amountTokens_count {keyword : String} {n : Quantity} {i : Int} (h : n.int? = some i) :
    amountTokens keyword (some n) = [keyword.toList, (toString i).toList] := by
  cases n <;> cases h <;> rfl

/-- A clause with a whole amount tells it. -/
theorem amountTokens_injective {keyword : String} {m n : Option Quantity} (hm : ∀ a ∈ m, a.IsCount)
    (hn : ∀ a ∈ n, a.IsCount) {ks r s : List Token} (hr : StartsIn ks r) (hs : StartsIn ks s)
    (hks : keyword.toList ∉ ks) (h : amountTokens keyword m ++ r = amountTokens keyword n ++ s) :
    m.map Quantity.int? = n.map Quantity.int? ∧ r = s := by
  cases m with
  | none =>
    cases n with
    | none => exact ⟨rfl, h⟩
    | some b =>
      obtain ⟨j, -, hj⟩ := hn b rfl
      rw [amountTokens_count hj] at h
      exact absurd (congrArg List.head? h) (hr.ne hks)
  | some a =>
    obtain ⟨i, hi, hai⟩ := hm a rfl
    rw [amountTokens_count hai] at h
    cases n with
    | none => exact absurd (congrArg List.head? h.symm) (hs.ne hks)
    | some b =>
      obtain ⟨j, hj, hbj⟩ := hn b rfl
      rw [amountTokens_count hbj] at h
      simp only [List.cons_append, List.nil_append, List.cons.injEq, true_and] at h
      obtain rfl := toString_whole_injective hi hj h.1
      exact ⟨by simp [hai, hbj], h.2⟩

/-- A projection ends at the table. -/
theorem Projection.readable {p p' : Projection} (hp : p.WellFormed) (hp' : p'.WellFormed) {r s : List Token}
    (h : p.tokens ++ "FROM".toList :: r = p'.tokens ++ "FROM".toList :: s) : p = p' ∧ r = s := by
  -- Behind a column comes a comma or the table, behind a count a parenthesis.
  have clash {names : List String} {label : String} {r s : List Token} (hne : names ≠ [])
      (h : (columns names).tokens ++ "FROM".toList :: r = (count label).tokens ++ s) : False := by
    obtain ⟨n, ns, rfl⟩ := List.exists_cons_of_ne_nil hne
    simp only [Projection.tokens, List.map_cons, separated_cons, List.cons_append, List.nil_append,
      List.cons.injEq] at h
    cases ns with
    | nil => simp at h
    | cons m ns => simp at h
  cases p with
  | columns names =>
    cases p' with
    | columns names' =>
      obtain ⟨hn, hrs⟩ := readable_text.separated (by simp) (by simp) hp.1 hp'.1 (by simp) (by simp) h
      exact ⟨congrArg columns hn, (List.cons.inj hrs).2⟩
    | count label => exact (clash hp.1 h).elim
  | count label =>
    cases p' with
    | columns names' => exact (clash hp'.1 h.symm).elim
    | count label' =>
      simp only [Projection.tokens, List.cons_append, List.nil_append, List.cons.injEq, true_and] at h
      rw [String.toList_inj.1 h.1]
      exact ⟨rfl, h.2⟩

end PagedSelect
