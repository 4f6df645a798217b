import PagedSelect.Proofs.Text.Token
/-!
# Parameters mentioned in a text

A text is searched for parameters as a reader would: a mark, a `p` and as many digits as follow.  A
mention never goes across a break, so the mentions of a text are those of its tokens.
-/

namespace PagedSelect.Text

/-- The name that starts here, behind what is left of a mark. -/
def nameAt? : List Char → List Char → Option String
  | [], 'p' :: r =>
    match r.takeWhile Char.isDigit with
    | [] => none
    | digits => some (String.ofList ('p' :: digits))
  | [], _ => none
  | m :: mark, c :: r => if m = c then nameAt? mark r else none
  | _ :: _, [] => none

/-- The names of the parameters that characters mention, in order. -/
def mentions (mark : List Char) : List Char → List String
  | [] => []
  | c :: r => (nameAt? mark (c :: r)).toList ++ mentions mark r

variable {mark : List Char}

/-! ## Breaks -/

theorem nameAt?_break {c : Char} (hc : isBreak c = true) (hm : c ∉ mark) (r : List Char) :
    nameAt? mark (c :: r) = none := by
  cases mark with
  | nil =>
    have hp : c ≠ 'p' := by
      rintro rfl
      exact absurd hc (by decide)
    simp [nameAt?, hp]
  | cons m ms =>
    have hmc : m ≠ c := fun h => hm (by simp [h])
    simp [nameAt?, hmc]

theorem takeWhile_append_break {c : Char} (hc : isBreak c = true) (u v : List Char) :
    (u ++ c :: v).takeWhile Char.isDigit = u.takeWhile Char.isDigit := by
  have hd : c.isDigit = false := by
    refine Bool.eq_false_iff.2 fun hd => ?_
    simp only [isBreak, isMark, Bool.or_eq_true, beq_iff_eq] at hc
    rcases hc with rfl | (rfl | rfl) | rfl <;> exact absurd hd (by decide)
  induction u with
  | nil => simp [hd]
  | cons d u ih => simp [List.takeWhile_cons, ih]

theorem nameAt?_append_break {c : Char} (hc : isBreak c = true) (hm : c ∉ mark) (u v : List Char) :
    nameAt? mark (u ++ c :: v) = nameAt? mark u := by
  induction mark generalizing u with
  | nil =>
    cases u with
    | nil => exact nameAt?_break hc hm v
    | cons d u =>
      by_cases hd : d = 'p'
      · subst hd
        simp only [List.cons_append, nameAt?, takeWhile_append_break hc]
      · simp [nameAt?, hd]
  | cons m ms ih =>
    have hms : c ∉ ms := fun h => hm (by simp [h])
    cases u with
    | nil => exact nameAt?_break hc hm v
    | cons d u => simp only [List.cons_append, nameAt?, ih hms]

theorem mentions_append_break {c : Char} (hc : isBreak c = true) (hm : c ∉ mark) (u v : List Char) :
    mentions mark (u ++ c :: v) = mentions mark u ++ mentions mark v := by
  induction u with
  | nil => simp [mentions, nameAt?_break hc hm]
  | cons d u ih =>
    have hname := nameAt?_append_break hc hm (d :: u) v
    rw [List.cons_append] at hname ⊢
    rw [mentions, mentions, hname, ih, List.append_assoc]

theorem mentions_runToken (mark run : List Char) : (runToken run).flatMap (mentions mark) = mentions mark run := by
  cases run <;> simp [runToken, mentions]

theorem mentions_tokensFrom (hm : ∀ c ∈ mark, isBreak c = false) (run cs : List Char) :
    mentions mark (run ++ cs) = (tokensFrom run cs).flatMap (mentions mark) := by
  have notIn {c : Char} (hc : isBreak c = true) : c ∉ mark := fun h => by simp [hm c h] at hc
  -- The run that was read is carried along: a break ends it in the tokens and for mentions alike.
  induction cs generalizing run with
  | nil => rw [List.append_nil, tokensFrom, mentions_runToken]
  | cons c r ih =>
    rw [tokensFrom_cons]
    split
    · rename_i hs
      rw [mentions_append_break (by simp [isBreak, hs]) (notIn (by simp [isBreak, hs])),
        List.flatMap_append, mentions_runToken, ← ih, List.nil_append]
    · split
      · rename_i hmark
        have hc : isBreak c = true := by simp [isBreak, hmark]
        rw [mentions_append_break hc (notIn hc), List.flatMap_append, List.flatMap_cons, mentions_runToken,
          ← ih, List.nil_append]
        simp [mentions, nameAt?_break hc (notIn hc)]
      · rw [← ih]
        simp

/-- A text mentions what its tokens mention. -/
theorem mentions_tokens (hm : ∀ c ∈ mark, isBreak c = false) (s : String) :
    mentions mark s.toList = (tokens s).flatMap (mentions mark) :=
  mentions_tokensFrom hm [] s.toList

/-! ## Single tokens -/

theorem nameAt?_of_not_mem {w : List Char} (h : 'p' ∉ w) : nameAt? mark w = none := by
  induction mark generalizing w with
  | nil =>
    cases w with
    | nil => rfl
    | cons c r =>
      have hc : c ≠ 'p' := fun hc => h (by simp [hc])
      simp [nameAt?, hc]
  | cons m ms ih =>
    cases w with
    | nil => rfl
    | cons c r =>
      rw [nameAt?, ih fun hr => h (by simp [hr])]
      simp

/-- Without the letter that starts a name there is nothing to mention. -/
theorem mentions_of_not_mem {w : List Char} (h : 'p' ∉ w) : mentions mark w = [] := by
  induction w with
  | nil => rfl
  | cons c r ih => rw [mentions, nameAt?_of_not_mem h, ih fun hr => h (by simp [hr])]; rfl

/-- Without a character of the mark there is nothing to mention. -/
theorem mentions_of_disjoint {w : List Char} (hne : mark ≠ []) (h : ∀ c ∈ w, c ∉ mark) :
    mentions mark w = [] := by
  obtain ⟨m, ms, rfl⟩ := List.exists_cons_of_ne_nil hne
  induction w with
  | nil => rfl
  | cons c r ih =>
    have hmc : m ≠ c := fun hmc => h c (by simp) (by simp [hmc])
    rw [mentions, nameAt?, if_neg hmc, ih fun d hd => h d (by simp [hd])]
    rfl

/-- A name cannot start inside a mark: what is left of the mark is too short for a mark. -/
theorem nameAt?_inside {u r : List Char} (hp : 'p' ∉ mark) (hlen : u.length < mark.length) :
    nameAt? mark (u ++ 'p' :: r) = none := by
  induction mark generalizing u with
  | nil => simp at hlen
  | cons m ms ih =>
    cases u with
    | nil =>
      have hm : m ≠ 'p' := fun h => hp (by simp [h])
      simp [nameAt?, hm]
    | cons c u =>
      have hms : 'p' ∉ ms := fun h => hp (by simp [h])
      rw [List.cons_append, nameAt?, ih hms (by simpa using hlen)]
      simp

theorem mentions_inside {u r : List Char} (hp : 'p' ∉ mark) (hlen : u.length < mark.length) :
    mentions mark (u ++ 'p' :: r) = mentions mark ('p' :: r) := by
  induction u with
  | nil => rfl
  | cons c u ih =>
    have hname := nameAt?_inside (r := r) hp hlen
    rw [List.cons_append] at hname ⊢
    rw [mentions, hname, ih (by simp at hlen; omega)]
    rfl

theorem nameAt?_mark (mark digits : List Char) :
    nameAt? mark (mark ++ 'p' :: digits) = nameAt? [] ('p' :: digits) := by
  induction mark with
  | nil => rfl
  | cons m ms ih => exact (if_pos rfl).trans ih

/-- A mark, a `p` and digits mention one parameter. -/
theorem mentions_param {digits : List Char} (hne : mark ≠ []) (hp : ∀ c ∈ 'p' :: digits, c ∉ mark)
    (hd : ∀ c ∈ digits, c.isDigit = true) (hdne : digits ≠ []) :
    mentions mark (mark ++ 'p' :: digits) = [String.ofList ('p' :: digits)] := by
  have hname : nameAt? mark (mark ++ 'p' :: digits) = some (String.ofList ('p' :: digits)) := by
    have hall : (digits ++ []).takeWhile Char.isDigit = digits ++ [].takeWhile Char.isDigit :=
      List.takeWhile_append_of_pos hd
    rw [List.append_nil, List.takeWhile_nil, List.append_nil] at hall
    rw [nameAt?_mark, nameAt?, hall]
    cases digits with
    | nil => exact absurd rfl hdne
    | cons d r => rfl
  have hrest : mentions mark ('p' :: digits) = [] := mentions_of_disjoint hne hp
  obtain ⟨m, ms, rfl⟩ := List.exists_cons_of_ne_nil hne
  rw [List.cons_append] at hname ⊢
  rw [mentions, hname, mentions_inside (hp 'p' (by simp)) (by simp), hrest]
  rfl

end PagedSelect.Text
