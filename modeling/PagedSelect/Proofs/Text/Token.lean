/-!
# Tokens of a text

A text is cut into tokens at spaces, commas and parentheses; a comma or a parenthesis is a token of
its own.  Two texts with such a break between them have the tokens of the one and then those of the
other, which gives the tokens of a text that is put together from pieces.
-/

namespace PagedSelect.Text

/-- The characters of one token. -/
abbrev Token := List Char

/-- A token of one character. -/
def isMark (c : Char) : Bool := c == ',' || c == '(' || c == ')'

/-- A character at which a token ends. -/
def isBreak (c : Char) : Bool := c == ' ' || isMark c

/-- A run of characters as a token; an empty run is none. -/
def runToken : List Char → List Token
  | [] => []
  | run => [run]

/-- The tokens of characters that follow a run of a token. -/
def tokensFrom (run : List Char) : List Char → List Token
  | [] => runToken run
  | c :: r =>
    if c = ' ' then runToken run ++ tokensFrom [] r
    else if isMark c then runToken run ++ [c] :: tokensFrom [] r
    else tokensFrom (run ++ [c]) r

/-- The tokens of a text. -/
def tokens (s : String) : List Token := tokensFrom [] s.toList

/-- Whether a text starts with a break. -/
def startsBroken (s : String) : Bool := s.toList.head?.any isBreak

/-- Whether a text ends with a break. -/
def endsBroken (s : String) : Bool := s.toList.getLast?.any isBreak

/-! ## Pieces with a break between them -/

theorem tokensFrom_cons (run : List Char) (c : Char) (r : List Char) :
    tokensFrom run (c :: r) =
      if c = ' ' then runToken run ++ tokensFrom [] r
      else if isMark c then runToken run ++ [c] :: tokensFrom [] r
      else tokensFrom (run ++ [c]) r := rfl

theorem tokensFrom_append_break (run u v : List Char) (c : Char) (hc : isBreak c = true) :
    tokensFrom run (u ++ c :: v) = tokensFrom run u ++ tokensFrom [] (c :: v) := by
  induction u generalizing run with
  | nil =>
    by_cases hs : c = ' '
    · simp [tokensFrom, hs, runToken]
    · have hm : isMark c = true := by simpa [isBreak, hs] using hc
      simp [tokensFrom, hs, hm, runToken]
  | cons d u ih =>
    rw [List.cons_append, tokensFrom_cons, tokensFrom_cons run d u]
    split
    · rw [ih, List.append_assoc]
    · split
      · rw [ih, List.append_assoc, List.cons_append]
      · exact ih _

theorem tokensFrom_break_append (run u v : List Char) (c : Char) (hc : isBreak c = true) :
    tokensFrom run (u ++ c :: v) = tokensFrom run (u ++ [c]) ++ tokensFrom [] v := by
  rw [tokensFrom_append_break run u v c hc, tokensFrom_append_break run u [] c hc]
  by_cases hs : c = ' '
  · simp [tokensFrom, hs, runToken]
  · have hm : isMark c = true := by simpa [isBreak, hs] using hc
    simp [tokensFrom, hs, hm, runToken]

theorem tokens_append_left {s t : String} (h : startsBroken t = true) :
    tokens (s ++ t) = tokens s ++ tokens t := by
  unfold tokens
  rw [String.toList_append]
  unfold startsBroken at h
  cases ht : t.toList with
  | nil => simp [ht] at h
  | cons c r =>
    rw [ht] at h
    exact tokensFrom_append_break [] _ _ c h

theorem tokens_append_right {s t : String} (h : endsBroken s = true) :
    tokens (s ++ t) = tokens s ++ tokens t := by
  unfold tokens
  rw [String.toList_append]
  unfold endsBroken at h
  rcases List.eq_nil_or_concat s.toList with hs | ⟨u, c, hs⟩
  · simp [hs] at h
  · rw [List.concat_eq_append] at hs
    rw [hs] at h ⊢
    rw [List.append_assoc, List.singleton_append]
    exact tokensFrom_break_append [] u _ c (by simpa using h)

theorem endsBroken_append (s : String) {t : String} (h : endsBroken t = true) : endsBroken (s ++ t) = true := by
  unfold endsBroken at h ⊢
  rw [String.toList_append, List.getLast?_append]
  cases ht : t.toList.getLast? with
  | none => simp [ht] at h
  | some c => simpa [ht] using h

/-- A piece with a break at either end keeps the pieces around it apart. -/
theorem tokens_around {s t u : String} (hl : startsBroken t = true) (hr : endsBroken t = true) :
    tokens (s ++ t ++ u) = tokens s ++ tokens t ++ tokens u := by
  rw [tokens_append_right (endsBroken_append s hr), tokens_append_left hl]

theorem tokens_intercalate {sep : String} (hl : startsBroken sep = true) (hr : endsBroken sep = true)
    (ss : List String) : tokens (sep.intercalate ss) = (tokens sep).intercalate (ss.map tokens) := by
  induction ss with
  | nil => rfl
  | cons s r ih =>
    cases r with
    | nil => simp
    | cons t r =>
      rw [String.intercalate_cons_cons, tokens_around hl hr, ih]
      simp [List.append_assoc]

/-! ## Single tokens -/

theorem tokensFrom_run (run w : List Char) (h : ∀ c ∈ w, isBreak c = false) :
    tokensFrom run w = runToken (run ++ w) := by
  induction w generalizing run with
  | nil => simp [tokensFrom]
  | cons c r ih =>
    have hc := h c (by simp)
    simp only [isBreak, Bool.or_eq_false_iff, beq_eq_false_iff_ne, ne_eq] at hc
    rw [tokensFrom, if_neg hc.1, if_neg (by simp [hc.2]), ih _ fun d hd => h d (by simp [hd])]
    simp

/-- A text without breaks is one token. -/
theorem tokens_word {w : String} (hne : w ≠ "") (h : ∀ c ∈ w.toList, isBreak c = false) :
    tokens w = [w.toList] := by
  unfold tokens
  rw [tokensFrom_run [] _ h, List.nil_append]
  cases hw : w.toList with
  | nil => exact absurd (String.toList_eq_nil_iff.1 hw) hne
  | cons c r => rfl

end PagedSelect.Text
