import Mathlib.Data.List.TakeWhile
import PagedSelect.Number.Numeral
import PagedSelect.Proofs.Text.Pieces
/-!
# Numerals read back

A natural number that is written out in ASCII digits is read as itself, unless it has more digits than a
number text may have.  What is read from a request member can be written again.
-/

namespace PagedSelect.Numeral

open Text

variable {c : Char} {ds : List Char}

/-! ## ASCII digits -/

theorem digitValue?_of_isDigit (h : c.isDigit = true) : digitValue? c = some (c.toNat - 0x30) := by
  have hcodes := codes_of_isDigit h
  have hzero : zeros.find? (fun z => z ≤ c.toNat && c.toNat < z + 10) = some 0x30 := by
    have hfirst : (decide (0x30 ≤ c.toNat) && decide (c.toNat < 0x30 + 10)) = true := by
      simp only [Bool.and_eq_true, decide_eq_true_eq]
      omega
    rw [zeros, List.find?_cons, hfirst]
  rw [digitValue?, hzero, Option.map_some]

theorem mapM_digitValue? (h : ∀ c ∈ ds, c.isDigit = true) :
    ds.mapM digitValue? = some (ds.map fun c => c.toNat - 0x30) := by
  induction ds with
  | nil => rfl
  | cons c r ih =>
    rw [List.forall_mem_cons] at h
    rw [List.mapM_cons, digitValue?_of_isDigit h.1, ih h.2]
    rfl

theorem groupedDigits?_of_digits (hne : ds ≠ []) (h : ∀ c ∈ ds, c.isDigit = true) :
    groupedDigits? digitValue? ds = some (ds.map fun c => c.toNat - 0x30) := by
  have hunderscore : ∀ c ∈ ds, (c == '_') = false := by
    intro c hc
    rw [beq_eq_false_iff_ne]
    rintro rfl
    exact absurd (h _ hc) (by decide)
  have hsplit : ds.splitOn '_' = [ds] := List.splitOnP_eq_singleton hunderscore
  simp [groupedDigits?, hsplit, hne, mapM_digitValue? h]

theorem splitSign_of_digits (h : ∀ c ∈ ds, c.isDigit = true) : splitSign ds = (false, ds) := by
  unfold splitSign
  split
  · exact absurd (h '-' (by simp)) (by decide)
  · exact absurd (h '+' (by simp)) (by decide)
  · rfl

/-! ## Written numbers -/

theorem ofDigits_map (ds : List Char) (n : Nat) :
    (ds.map fun c => c.toNat - 0x30).foldl (fun n d => n * 10 + d) n = Nat.ofDigitChars 10 ds n := by
  induction ds generalizing n with
  | nil => rfl
  | cons c r ih =>
    rw [List.map_cons, List.foldl_cons, ih, Nat.ofDigitChars, Nat.ofDigitChars, List.foldl_cons, Nat.mul_comm]
    rfl

/-- Digits without anything around them are the number that they write. -/
theorem read_digits (hne : ds ≠ []) (h : ∀ c ∈ ds, c.isDigit = true) (hlen : ds.length ≤ maxDigits) :
    read isBlank digitValue? ds = .ok (Nat.ofDigitChars 10 ds 0) := by
  have hrun : ∀ c ∈ ds, ((digitValue? c).isSome || c == '_') = true := by
    intro c hc
    simp [digitValue?_of_isDigit (h c hc)]
  have hdrop : ds.dropWhile (fun c => (digitValue? c).isSome || c == '_') = [] :=
    List.dropWhile_eq_nil_iff.2 hrun
  have htake : ds.takeWhile (fun c => (digitValue? c).isSome || c == '_') = ds :=
    List.takeWhile_eq_self_iff.2 hrun
  have hblank : ds.dropWhile isBlank = ds := by
    cases ds with
    | nil => rfl
    | cons c r =>
      have hcodes := codes_of_isDigit (h c (by simp))
      have hspace : isSpace c = false := isSpace_of_codes (by omega) (by omega)
      simp [(Bool.or_eq_false_iff.1 hspace).1]
  have hdigits : ofDigits (ds.map fun c => c.toNat - 0x30) = Nat.ofDigitChars 10 ds 0 := ofDigits_map ds 0
  simp only [read, hblank, splitSign_of_digits h, htake, hdrop, groupedDigits?_of_digits hne h, List.length_map,
    if_neg (Nat.not_lt.2 hlen), List.all_nil, if_true, hdigits]
  rfl

theorem ofText_toString {n : Nat} (h : (toString n).length ≤ maxDigits) : ofText (toString n) = .ok n := by
  have hchars : (toString n).toList = Nat.toDigits 10 n := Nat.toList_repr
  rw [← String.length_toList, hchars] at h
  have hdigit : ∀ c ∈ Nat.toDigits 10 n, c.isDigit = true := fun c hc =>
    Nat.isDigit_of_mem_toDigits (by omega) (by omega) hc
  rw [ofText, hchars, read_digits Nat.toDigits_ne_nil hdigit h, Nat.ofDigitChars_ten_toDigits]

/-! ## Numbers that can be written -/

theorem tenTo_le {m n : Nat} (h : m ≤ n) : Number.tenTo m ≤ Number.tenTo n := Nat.pow_le_pow_right (by decide) h

theorem length_toDigits_le {n k : Nat} (hk : 0 < k) : (Nat.toDigits 10 n).length ≤ k ↔ n < Number.tenTo k :=
  Nat.length_toDigits_le_iff (by decide) hk

theorem isSome_write? {n : Int} : (write? n).isSome = true ↔ n.natAbs < Number.tenTo maxDigits := by
  rw [← length_toDigits_le (by decide)]
  unfold write?
  split
  · rename_i h
    simpa using h
  · rename_i h
    simpa using h

theorem mapM_asciiDigit? {digits : List Nat} (h : ds.mapM asciiDigit? = some digits) :
    (∀ c ∈ ds, c.isDigit = true) ∧ digits.length = ds.length ∧ ∀ d ∈ digits, d < 10 := by
  induction ds generalizing digits with
  | nil =>
    cases h
    simp
  | cons c r ih =>
    simp only [List.mapM_cons, Option.bind_eq_bind, Option.bind_eq_some_iff, Option.pure_def, Option.some.injEq] at h
    obtain ⟨d, hd, others, hothers, rfl⟩ := h
    obtain ⟨hdigits, hlength, hsmall⟩ := ih hothers
    unfold asciiDigit? at hd
    split at hd
    · rename_i hc
      cases hd
      have hcodes := codes_of_isDigit hc
      refine ⟨List.forall_mem_cons.2 ⟨hc, hdigits⟩, by simp [hlength], List.forall_mem_cons.2 ⟨by omega, hsmall⟩⟩
    · cases hd

theorem ofDigits_lt {digits : List Nat} (h : ∀ d ∈ digits, d < 10) :
    ofDigits digits < Number.tenTo digits.length := by
  have behind (n : Nat) : digits.foldl (fun n d => n * 10 + d) n < (n + 1) * Number.tenTo digits.length := by
    induction digits generalizing n with
    | nil =>
      change n < (n + 1) * 1
      omega
    | cons d r ih =>
      rw [List.forall_mem_cons] at h
      have hten : Number.tenTo (d :: r).length = 10 * Number.tenTo r.length := Nat.mul_comm _ _
      calc (d :: r).foldl (fun n d => n * 10 + d) n
          < (n * 10 + d + 1) * Number.tenTo r.length := ih h.2 _
        _ ≤ ((n + 1) * 10) * Number.tenTo r.length := Nat.mul_le_mul_right _ (by omega)
        _ = (n + 1) * Number.tenTo (d :: r).length := by rw [hten, Nat.mul_assoc]
  simpa [ofDigits] using behind 0

/-- What stands behind an optional minus are digits, of which the first is zero only for zero itself. -/
theorem plain?_eq_some {cs : List Char} {n : Int} (h : plain? cs = some n) :
    n.natAbs < Number.tenTo (leadingDigits cs).length ∧
      (n = 0 ∨ (cs.head? ≠ some '+' ∧ (leadingDigits cs).head? ≠ some '0')) := by
  unfold plain? at h
  split at h
  rename_i negative ds hsplit
  obtain ⟨hne, hall, hbound, hzero⟩ : ds ≠ [] ∧ (∀ c ∈ ds, c.isDigit = true) ∧
      n.natAbs < Number.tenTo ds.length ∧ (n = 0 ∨ ds.head? ≠ some '0') := by
    split at h
    · cases h
    · cases h
      exact ⟨by simp, by simp, by decide, .inl rfl⟩
    · cases h
    · rename_i hnil _ hzeros
      obtain ⟨digits, hdigits, rfl⟩ := Option.map_eq_some_iff.1 h
      obtain ⟨hall, hlength, hsmall⟩ := mapM_asciiDigit? hdigits
      have hbound := ofDigits_lt hsmall
      rw [hlength] at hbound
      refine ⟨hnil, hall, ?_, .inr fun hhead => ?_⟩
      · unfold Number.signed
        split <;> simpa using hbound
      · obtain ⟨r, rfl⟩ := List.head?_eq_some_iff.1 hhead
        exact hzeros r rfl
  have leading {ds : List Char} (hall : ∀ c ∈ ds, c.isDigit = true) : ds.takeWhile Char.isDigit = ds :=
    List.takeWhile_eq_self_iff.2 hall
  split at hsplit
  · cases hsplit
    have hlead : leadingDigits ('-' :: ds) = ds := leading hall
    rw [hlead]
    exact ⟨hbound, hzero.imp_right fun h => ⟨by simp, h⟩⟩
  · cases hsplit
    obtain ⟨c, r, rfl⟩ := List.exists_cons_of_ne_nil hne
    have hplus : c ≠ '+' := by
      rintro rfl
      exact absurd (hall '+' (by simp)) (by decide)
    have hlead : leadingDigits (c :: r) = c :: r := by rw [leadingDigits, splitSign_of_digits hall, leading hall]
    rw [hlead]
    exact ⟨hbound, hzero.imp_right fun h => ⟨by simpa using hplus, h⟩⟩

/-- A request member that is read as a number can be written again. -/
theorem isSome_write?_of_ofWire {s : String} {n : Int} (h : ofWire s = .ok n) : (write? n).isSome = true := by
  have bounded {cs : List Char} (hn : plain? cs = some n) (hlength : (leadingDigits cs).length ≤ maxDigits) :
      (write? n).isSome = true :=
    isSome_write?.2 (Nat.lt_of_lt_of_le (plain?_eq_some hn).1 (tenTo_le hlength))
  unfold ofWire at h
  dsimp only at h
  split at h
  · cases h
  · rename_i hshort
    split at h
    · rename_i m hm
      cases h
      rcases (plain?_eq_some hm).2 with rfl | ⟨hplus, hzero⟩
      · decide
      · refine bounded hm ?_
        simpa [startsTooLong, hplus, hzero] using hshort
    · split at h
      · cases h
      · split at h
        · cases h
        · rename_i ds _ hlength
          split at h
          · rename_i m hm
            cases h
            exact bounded hm (by omega)
          · cases h

end PagedSelect.Numeral
