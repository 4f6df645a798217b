import Mathlib.Algebra.Order.Field.Power
import Mathlib.Algebra.Order.Floor.Ring
import Mathlib.Data.Rat.Floor
import Mathlib.Tactic.FieldSimp
import Mathlib.Tactic.Linarith
import Mathlib.Tactic.NormNum
import Mathlib.Tactic.Positivity
import Mathlib.Tactic.Ring
import PagedSelect.Number.Double
/-!
# Rounding a quotient, as it is

What `nearest?` gives for a quotient: a number on the grid of the doubles of its size, half a step away
at most, and never across a number of that grid.  A quotient is refused exactly if it lies half a step
or more above the greatest double.
-/

namespace PagedSelect.Number

/-- The number that a mantissa and a power of two stand for. -/
def scaled (m : Nat) (e : Int) : ℚ := m * 2 ^ e

theorem cast_twoTo (n : Nat) : ((twoTo n : Nat) : ℚ) = 2 ^ n := by
  change ((2 ^ n : Nat) : ℚ) = _
  push_cast
  rfl

theorem twoTo_pos (n : Nat) : 0 < twoTo n := Nat.pow_pos (by omega)

theorem two_zpow_pos (e : Int) : (0 : ℚ) < 2 ^ e := zpow_pos (by norm_num) e

/-- A power of two one step up. -/
theorem two_zpow_succ (e : Int) : (2 : ℚ) ^ (e + 1) = 2 * 2 ^ e := by
  rw [zpow_add_one₀ (by norm_num)]
  ring

theorem two_zpow_mono {d e : Int} (h : d ≤ e) : (2 : ℚ) ^ d ≤ 2 ^ e := zpow_le_zpow_right₀ (by norm_num) h

/-! ## Half to even -/

section halfEven

variable {n d k : Nat}

theorem halfEven_le_succ : halfEven n d ≤ n / d + 1 := by
  unfold halfEven
  dsimp only
  split
  · omega
  · split
    · omega
    · split <;> omega

theorem div_le_halfEven : n / d ≤ halfEven n d := by
  unfold halfEven
  dsimp only
  split
  · omega
  · split
    · omega
    · split <;> omega

/-- The rounded quotient is half a unit away at most. -/
theorem halfEven_near (hd : 0 < d) :
    2 * (halfEven n d * d) ≤ 2 * n + d ∧ 2 * n ≤ 2 * (halfEven n d * d) + d := by
  have hdiv : n / d * d + n % d = n := by
    rw [Nat.mul_comm]
    exact Nat.div_add_mod n d
  have hmod : n % d < d := Nat.mod_lt n hd
  have hsucc : (n / d + 1) * d = n / d * d + d := Nat.succ_mul _ _
  unfold halfEven
  dsimp only
  split
  · omega
  · split
    · rw [hsucc]
      omega
    · split
      · omega
      · rw [hsucc]
        omega

theorem halfEven_of_dvd (hd : 0 < d) : halfEven (k * d) d = k := by
  unfold halfEven
  rw [Nat.mul_div_cancel k hd, Nat.mul_mod_left]
  simp [hd]

/-- Rounding does not go below a whole number. -/
theorem le_halfEven (hd : 0 < d) (h : k * d ≤ n) : k ≤ halfEven n d :=
  le_trans ((Nat.le_div_iff_mul_le hd).2 h) div_le_halfEven

/-- Rounding does not go above a whole number. -/
theorem halfEven_le (hd : 0 < d) (h : n ≤ k * d) : halfEven n d ≤ k := by
  rcases Nat.lt_or_eq_of_le h with h | rfl
  · exact le_trans halfEven_le_succ ((Nat.div_lt_iff_lt_mul hd).2 h)
  · exact (halfEven_of_dvd hd).le

/-- The middle between an odd number and the next one is rounded up. -/
theorem halfEven_of_middle (hd : 0 < d) (hk : k % 2 = 1) (h : 2 * n = (2 * k + 1) * d) : halfEven n d = k + 1 := by
  have hsplit : (2 * k + 1) * d = 2 * (k * d) + d := by ring
  have hdiv : n / d = k := by
    refine Nat.div_eq_of_lt_le (by omega) ?_
    rw [Nat.succ_mul]
    omega
  have hmod : 2 * (n % d) = d := by
    have := Nat.mod_add_div n d
    rw [hdiv, Nat.mul_comm d k] at this
    omega
  unfold halfEven
  dsimp only
  rw [hdiv, if_neg (by omega), if_neg (by omega), if_neg (by omega)]

/-- What is rounded to more than an odd number is the middle above it and all beyond. -/
theorem lt_halfEven_iff (hd : 0 < d) (hk : k % 2 = 1) : k < halfEven n d ↔ (2 * k + 1) * d ≤ 2 * n := by
  have hsplit : (2 * k + 1) * d = 2 * (k * d) + d := by ring
  constructor
  · intro h
    have hle : (k + 1) * d ≤ halfEven n d * d := Nat.mul_le_mul_right d h
    have := (halfEven_near (n := n) hd).1
    rw [Nat.succ_mul] at hle
    omega
  · intro h
    rcases Nat.lt_or_eq_of_le h with h | h
    · have := (halfEven_near (n := n) hd).2
      exact Nat.lt_of_mul_lt_mul_right (a := d) (by omega)
    · rw [halfEven_of_middle hd hk h.symm]
      omega

end halfEven

/-! ## Units -/

/-- Both parts of a quotient in units of a power of two. -/
theorem inUnits_ratio (num : Nat) {den : Nat} (hden : 0 < den) (e : Int) :
    0 < (inUnits num den e).2 ∧
      ((inUnits num den e).1 : ℚ) = num / den / 2 ^ e * (inUnits num den e).2 := by
  have hden' : (den : ℚ) ≠ 0 := by exact_mod_cast hden.ne'
  unfold inUnits
  split
  · rename_i he
    refine ⟨Nat.mul_pos hden (twoTo_pos _), ?_⟩
    have hpow : ((twoTo e.toNat : Nat) : ℚ) = 2 ^ e := by
      rw [cast_twoTo, ← zpow_natCast, Int.toNat_of_nonneg he]
    have := two_zpow_pos e
    push_cast
    rw [hpow]
    field_simp
  · rename_i he
    refine ⟨hden, ?_⟩
    have hpow : ((twoTo (-e).toNat : Nat) : ℚ) = (2 ^ e)⁻¹ := by
      rw [cast_twoTo, ← zpow_natCast, Int.toNat_of_nonneg (by omega), zpow_neg]
    push_cast
    rw [hpow]
    field_simp

/-- A positive quotient by the sizes of its parts. -/
theorem quotient_size {num den : Nat} (hnum : 0 < num) (hden : 0 < den) :
    (2 : ℚ) ^ ((Nat.log2 num : Int) - Nat.log2 den) < 2 * (num / den) ∧
      (num / den : ℚ) < 2 * 2 ^ ((Nat.log2 num : Int) - Nat.log2 den) := by
  have hden' : (0 : ℚ) < den := by exact_mod_cast hden
  have hn : ((2 : ℚ) ^ (Nat.log2 num) ≤ num) := by exact_mod_cast Nat.log2_self_le hnum.ne'
  have hn' : ((num : ℚ) < 2 * 2 ^ (Nat.log2 num)) := by
    have h := Nat.lt_log2_self (n := num)
    rw [Nat.pow_succ, Nat.mul_comm] at h
    exact_mod_cast h
  have hd : ((2 : ℚ) ^ (Nat.log2 den) ≤ den) := by exact_mod_cast Nat.log2_self_le hden.ne'
  have hd' : ((den : ℚ) < 2 * 2 ^ (Nat.log2 den)) := by
    have h := Nat.lt_log2_self (n := den)
    rw [Nat.pow_succ, Nat.mul_comm] at h
    exact_mod_cast h
  rw [zpow_sub₀ (by norm_num), zpow_natCast, zpow_natCast]
  have hpow : (0 : ℚ) < 2 ^ (Nat.log2 den) := by positivity
  constructor
  · rw [div_lt_iff₀ hpow, mul_div_assoc', div_mul_eq_mul_div, lt_div_iff₀ hden']
    nlinarith
  · rw [div_lt_iff₀ hden', mul_div_assoc', div_mul_eq_mul_div, lt_div_iff₀ hpow]
    nlinarith

/-- The exponent of a quotient: 53 binary digits before the point, unless it is the least one. -/
theorem exponentOf_spec {num den : Nat} (hnum : 0 < num) (hden : 0 < den) :
    minExponent ≤ exponentOf num den ∧ (num / den : ℚ) < 2 ^ 53 * 2 ^ exponentOf num den ∧
      (exponentOf num den = minExponent ∨ 2 ^ 52 * 2 ^ exponentOf num den ≤ (num / den : ℚ)) := by
  obtain ⟨hlow, hhigh⟩ := quotient_size hnum hden
  generalize hq : (num / den : ℚ) = q at *
  -- The first guess has a mantissa of 52 or 53 digits; the test tells which.
  obtain ⟨e, he⟩ : ∃ e : Int, e = (Nat.log2 num : Int) - Nat.log2 den - 52 := ⟨_, rfl⟩
  have hsize : (2 : ℚ) ^ ((Nat.log2 num : Int) - Nat.log2 den) = 2 ^ 52 * 2 ^ e := by
    rw [show (Nat.log2 num : Int) - Nat.log2 den = (52 : Nat) + e by omega, zpow_add₀ (by norm_num),
      zpow_natCast]
  rw [hsize] at hlow hhigh
  have htest : (inUnits num den e).1 < twoTo 52 * (inUnits num den e).2 ↔ q < 2 ^ 52 * 2 ^ e := by
    obtain ⟨hpos, hratio⟩ := inUnits_ratio num hden e
    have hpos' : (0 : ℚ) < (inUnits num den e).2 := by exact_mod_cast hpos
    rw [← Nat.cast_lt (α := ℚ), hratio, hq, Nat.cast_mul, cast_twoTo, mul_lt_mul_iff_left₀ hpos',
      div_lt_iff₀ (two_zpow_pos e)]
  obtain ⟨e', he', hbelow, habove⟩ : ∃ e' : Int,
      e' = (if (inUnits num den e).1 < twoTo 52 * (inUnits num den e).2 then e - 1 else e) ∧
        q < 2 ^ 53 * 2 ^ e' ∧ 2 ^ 52 * 2 ^ e' ≤ q := by
    by_cases hlt : q < 2 ^ 52 * 2 ^ e
    · have hstep : (2 : ℚ) ^ e = 2 * 2 ^ (e - 1) := by rw [← two_zpow_succ, sub_add_cancel]
      exact ⟨e - 1, (if_pos (htest.2 hlt)).symm, by linarith, by linarith⟩
    · exact ⟨e, (if_neg (htest.not.2 hlt)).symm, by linarith, not_lt.1 hlt⟩
  have hexp : exponentOf num den = max minExponent e' := by
    rw [he', he]
    rfl
  rw [hexp]
  refine ⟨le_max_left _ _, ?_, ?_⟩
  · exact lt_of_lt_of_le hbelow (mul_le_mul_of_nonneg_left (two_zpow_mono (le_max_right _ _)) (by norm_num))
  · rcases le_total e' minExponent with h | h
    · exact .inl (max_eq_left h)
    · exact .inr (by rw [max_eq_right h]; exact habove)

/-! ## Rounded quotients -/

/-- A number `x` to which a quotient `q` is rounded, on the grid of the multiples of `2 ^ u`. -/
structure IsRounding (q x : ℚ) (u : Int) : Prop where
  least : minExponent ≤ u
  below : q < 2 ^ 53 * 2 ^ u
  normal : u = minExponent ∨ 2 ^ 52 * 2 ^ u ≤ q
  near : |x - q| ≤ 2 ^ u / 2
  le_of_le : ∀ k : Nat, k * 2 ^ u ≤ q → k * 2 ^ u ≤ x
  of_le_of_le : ∀ k : Nat, q ≤ k * 2 ^ u → x ≤ k * 2 ^ u

theorem IsRounding.eq_of_eq {q x : ℚ} {u : Int} (h : IsRounding q x u) {k : Nat} (hq : q = k * 2 ^ u) : x = q :=
  le_antisymm (by rw [hq]; exact h.of_le_of_le k hq.le) (by rw [hq]; exact h.le_of_le k hq.ge)

/-- The rounded mantissa at the exponent of a quotient is a rounding of it. -/
theorem isRounding_mantissa {num den : Nat} (hnum : 0 < num) (hden : 0 < den) :
    IsRounding (num / den)
      (scaled (halfEven (inUnits num den (exponentOf num den)).1 (inUnits num den (exponentOf num den)).2)
        (exponentOf num den)) (exponentOf num den) := by
  obtain ⟨hleast, hbelow, hnormal⟩ := exponentOf_spec hnum hden
  generalize exponentOf num den = u at *
  obtain ⟨hd, hratio⟩ := inUnits_ratio num hden u
  generalize (inUnits num den u).1 = n at *
  generalize (inUnits num den u).2 = d at *
  have hu := two_zpow_pos u
  have hd' : (0 : ℚ) < d := by exact_mod_cast hd
  have hq : (num / den : ℚ) = n / d * 2 ^ u := by
    rw [hratio]
    field_simp
  have grid (k : Nat) : (k : ℚ) * 2 ^ u ≤ num / den ↔ k * d ≤ n := by
    rw [hq, mul_le_mul_iff_left₀ hu, le_div_iff₀ hd']
    exact_mod_cast Iff.rfl
  have grid' (k : Nat) : (num / den : ℚ) ≤ k * 2 ^ u ↔ n ≤ k * d := by
    rw [hq, mul_le_mul_iff_left₀ hu, div_le_iff₀ hd']
    exact_mod_cast Iff.rfl
  have le_scaled (k m : Nat) : (k : ℚ) * 2 ^ u ≤ scaled m u ↔ k ≤ m := by
    rw [scaled, mul_le_mul_iff_left₀ hu, Nat.cast_le]
  have scaled_le (k m : Nat) : scaled m u ≤ (k : ℚ) * 2 ^ u ↔ m ≤ k := by
    rw [scaled, mul_le_mul_iff_left₀ hu, Nat.cast_le]
  refine ⟨hleast, hbelow, hnormal, ?_, fun k h => ?_, fun k h => ?_⟩
  · obtain ⟨h₁, h₂⟩ := halfEven_near (n := n) hd
    generalize halfEven n d = m at *
    have h₁' : 2 * ((m : ℚ) * d) ≤ 2 * n + d := by exact_mod_cast h₁
    have h₂' : 2 * (n : ℚ) ≤ 2 * (m * d) + d := by exact_mod_cast h₂
    have hm : |(m : ℚ) - n / d| ≤ 1 / 2 := by
      have hn : (n / d * d : ℚ) = n := div_mul_cancel₀ _ hd'.ne'
      rw [abs_le]
      constructor <;> nlinarith
    rw [hq, scaled, ← sub_mul, abs_mul, abs_of_pos hu]
    calc |(m : ℚ) - n / d| * 2 ^ u ≤ 1 / 2 * 2 ^ u := mul_le_mul_of_nonneg_right hm hu.le
      _ = 2 ^ u / 2 := by ring
  · exact (le_scaled _ _).2 (le_halfEven hd ((grid k).1 h))
  · exact (scaled_le _ _).2 (halfEven_le hd ((grid' k).1 h))

/-- A mantissa that has grown to 54 digits is written with 53 and the next exponent. -/
def carry (m : Nat) (u : Int) : Nat × Int := if m = twoTo 53 then (twoTo 52, u + 1) else (m, u)

theorem scaled_carry (m : Nat) (u : Int) : scaled (carry m u).1 (carry m u).2 = scaled m u := by
  unfold carry
  split
  · rename_i hm
    rw [hm, scaled, scaled, two_zpow_succ, cast_twoTo, cast_twoTo]
    ring
  · rfl

/-- The mantissa of a quotient at its exponent, before a carry. -/
def mantissaOf (num den : Nat) : Nat :=
  halfEven (inUnits num den (exponentOf num den)).1 (inUnits num den (exponentOf num den)).2

theorem nearest?_eq {num den : Nat} (hnum : 0 < num) :
    nearest? num den =
      if maxExponent < (carry (mantissaOf num den) (exponentOf num den)).2 then none
      else some (carry (mantissaOf num den) (exponentOf num den)) := by
  rw [nearest?, if_neg hnum.ne']
  rfl

/-- A quotient is rounded to what `nearest?` gives for it. -/
theorem isRounding_nearest? {num den m : Nat} {e : Int} (hden : 0 < den) (h : nearest? num den = some (m, e)) :
    ∃ u, IsRounding (num / den) (scaled m e) u := by
  rcases Nat.eq_zero_or_pos num with rfl | hnum
  · rw [nearest?, if_pos rfl] at h
    cases h
    have hpos := two_zpow_pos minExponent
    refine ⟨minExponent, le_rfl, by simp [hpos], .inl rfl, ?_, fun k hk => ?_, fun k hk => ?_⟩
    · simp only [scaled, Nat.cast_zero, zero_mul, zero_div, sub_self, abs_zero]
      positivity
    · simpa [scaled] using hk
    · simpa [scaled] using hk
  · rw [nearest?_eq hnum] at h
    split at h
    · cases h
    · have hcarry : carry (mantissaOf num den) (exponentOf num den) = (m, e) := Option.some.inj h
      have hvalue := scaled_carry (mantissaOf num den) (exponentOf num den)
      rw [hcarry] at hvalue
      dsimp only at hvalue
      rw [hvalue]
      exact ⟨exponentOf num den, isRounding_mantissa hnum hden⟩

/-- The least number that is refused: half a step above the greatest double. -/
def overflow : Nat := (2 * (twoTo 53 - 1) + 1) * twoTo 970

theorem cast_overflow : (overflow : ℚ) = (2 ^ 54 - 1) * 2 ^ (970 : Int) := by
  have htop : ((2 * (twoTo 53 - 1) + 1 : Nat) : ℚ) = 2 ^ 54 - 1 := by
    rw [show 2 * (twoTo 53 - 1) + 1 = 2 ^ 54 - 1 by decide]
    norm_num
  rw [overflow, Nat.cast_mul, htop, cast_twoTo, zpow_ofNat]

/-- A quotient of the greatest exponent is refused if its mantissa grows to 54 digits. -/
theorem mantissaOf_eq_top {num den : Nat} (hnum : 0 < num) (hden : 0 < den)
    (hu : exponentOf num den = maxExponent) :
    mantissaOf num den = twoTo 53 ↔ (overflow : ℚ) ≤ num / den := by
  obtain ⟨-, hbelow, -⟩ := exponentOf_spec hnum hden
  unfold mantissaOf
  rw [hu] at hbelow ⊢
  obtain ⟨hd, hratio⟩ := inUnits_ratio num hden maxExponent
  generalize (inUnits num den maxExponent).1 = n at *
  generalize (inUnits num den maxExponent).2 = d at *
  have hstep : (2 : ℚ) ^ maxExponent = 2 * 2 ^ (970 : Int) := two_zpow_succ 970
  have hP := two_zpow_pos 970
  have hd' : (0 : ℚ) < d := by exact_mod_cast hd
  have hq : (num / den : ℚ) = n / d * 2 ^ maxExponent := by
    have := two_zpow_pos maxExponent
    rw [hratio]
    field_simp
  have hmax : halfEven n d ≤ twoTo 53 := by
    refine halfEven_le hd ?_
    rw [hq, mul_lt_mul_iff_left₀ (two_zpow_pos _), div_lt_iff₀ hd'] at hbelow
    have : (n : ℚ) ≤ ((twoTo 53 * d : Nat) : ℚ) := by
      rw [Nat.cast_mul, cast_twoTo]
      exact hbelow.le
    exact_mod_cast this
  have hodd : (twoTo 53 - 1) % 2 = 1 := by decide
  have htop : halfEven n d = twoTo 53 ↔ twoTo 53 - 1 < halfEven n d := by
    have := twoTo_pos 53
    omega
  rw [htop, lt_halfEven_iff hd hodd, hq, hstep, cast_overflow, ← mul_assoc,
    mul_le_mul_iff_left₀ hP, div_mul_eq_mul_div, le_div_iff₀ hd', ← Nat.cast_le (α := ℚ)]
  rw [show 2 * (twoTo 53 - 1) + 1 = 2 ^ 54 - 1 by decide]
  norm_num
  rw [mul_comm 2 (n : ℚ)]

/-- A quotient is refused from half a step above the greatest double on. -/
theorem nearest?_eq_none {num den : Nat} (hden : 0 < den) :
    nearest? num den = none ↔ overflow * den ≤ num := by
  rcases Nat.eq_zero_or_pos num with rfl | hnum
  · have : 0 < overflow * den := Nat.mul_pos (Nat.mul_pos (by decide) (twoTo_pos _)) hden
    rw [nearest?, if_pos rfl]
    exact iff_of_false (by simp) (by omega)
  · have hden' : (0 : ℚ) < den := by exact_mod_cast hden
    have hover : overflow * den ≤ num ↔ (overflow : ℚ) ≤ num / den := by
      rw [le_div_iff₀ hden']
      exact_mod_cast Iff.rfl
    have htest : nearest? num den = none ↔
        maxExponent < (carry (mantissaOf num den) (exponentOf num den)).2 := by
      rw [nearest?_eq hnum]
      simp
    obtain ⟨-, hbelow, hnormal⟩ := exponentOf_spec hnum hden
    have htop := mantissaOf_eq_top hnum hden
    rw [hover, htest]
    generalize mantissaOf num den = m at *
    generalize exponentOf num den = u at *
    generalize (num / den : ℚ) = q at *
    have hP := two_zpow_pos 970
    have hstep : (2 : ℚ) ^ maxExponent = 2 * 2 ^ (970 : Int) := two_zpow_succ 970
    rw [cast_overflow] at htop ⊢
    generalize (2 : ℚ) ^ (970 : Int) = P at *
    unfold carry
    rcases lt_trichotomy u maxExponent with hu | hu | hu
    · -- Below the greatest exponent a carry does no harm.
      have hexp : (if m = twoTo 53 then (twoTo 52, u + 1) else (m, u)).2 ≤ maxExponent := by
        split
        · exact hu
        · exact hu.le
      have hmono : 2 * (2 : ℚ) ^ u ≤ 2 ^ maxExponent := by
        rw [← two_zpow_succ]
        exact two_zpow_mono hu
      refine iff_of_false (not_lt.2 hexp) (not_le.2 ?_)
      linarith
    · rw [← htop hu, hu]
      split
      · rename_i hm
        exact iff_of_true (by decide) hm
      · rename_i hm
        exact iff_of_false (lt_irrefl _) hm
    · have hexp : maxExponent < (if m = twoTo 53 then (twoTo 52, u + 1) else (m, u)).2 := by
        split
        · exact hu.trans (lt_add_one u)
        · exact hu
      have hmono : 2 * (2 : ℚ) ^ maxExponent ≤ 2 ^ u := by
        rw [← two_zpow_succ]
        exact two_zpow_mono hu
      have hq : 2 ^ 52 * (2 : ℚ) ^ u ≤ q := by
        rcases hnormal with hmin | hq
        · rw [hmin] at hu
          exact absurd hu (by decide)
        · exact hq
      refine iff_of_true hexp ?_
      linarith

/-! ## Ceilings -/

theorem ratio_eq (m : Nat) (e : Int) :
    0 < (Double.ratio m e).2 ∧ ((Double.ratio m e).1 : ℚ) = scaled m e * (Double.ratio m e).2 := by
  unfold Double.ratio
  split
  · rename_i he
    refine ⟨Nat.one_pos, ?_⟩
    rw [Nat.cast_mul, cast_twoTo, scaled, ← zpow_natCast, Int.toNat_of_nonneg he, Nat.cast_one, mul_one]
  · rename_i he
    refine ⟨twoTo_pos _, ?_⟩
    have hpow : ((twoTo (-e).toNat : Nat) : ℚ) = (2 ^ e)⁻¹ := by
      rw [cast_twoTo, ← zpow_natCast, Int.toNat_of_nonneg (by omega), zpow_neg]
    have := two_zpow_pos e
    rw [hpow, scaled]
    field_simp

/-- The ceiling of a double is that of the number it stands for. -/
theorem ceiling_eq (m : Nat) (e : Int) : Double.ceiling false m e = ⌈scaled m e⌉ := by
  obtain ⟨hd, hratio⟩ := ratio_eq m e
  change (((((Double.ratio m e).1 + (Double.ratio m e).2 - 1) / (Double.ratio m e).2 : Nat)) : Int) = _
  generalize (Double.ratio m e).1 = n at *
  generalize (Double.ratio m e).2 = d at *
  have hd' : (0 : ℚ) < d := by exact_mod_cast hd
  have hdiv := Nat.div_add_mod (n + d - 1) d
  have hmod := Nat.mod_lt (n + d - 1) hd
  generalize (n + d - 1) / d = c at *
  rw [Nat.mul_comm] at hdiv
  have hlow : (c : ℚ) * d < n + d := by
    exact_mod_cast (show c * d < n + d by omega)
  have hhigh : (n : ℚ) ≤ c * d := by
    exact_mod_cast (show n ≤ c * d by omega)
  rw [eq_comm, Int.ceil_eq_iff, Int.cast_natCast]
  constructor
  · nlinarith
  · nlinarith

/-- A whole number is on the grid of a power of two that is no greater than one. -/
theorem exists_grid {u : Int} (hu : u ≤ 0) (c : Nat) : ∃ k : Nat, (c : ℚ) = k * 2 ^ u := by
  refine ⟨c * 2 ^ (-u).toNat, ?_⟩
  push_cast
  rw [← zpow_natCast, Int.toNat_of_nonneg (by omega), mul_assoc, ← zpow_add₀ (by norm_num), neg_add_cancel,
    zpow_zero, mul_one]

/-- A quotient of whole numbers stays above a whole number by one part of its denominator at least. -/
theorem one_div_le_of_lt {num den c : Nat} (hden : 0 < den) (h : (c : ℚ) < num / den) :
    1 / (den : ℚ) ≤ num / den - c := by
  have hden' : (0 : ℚ) < den := by exact_mod_cast hden
  rw [lt_div_iff₀ hden'] at h
  have h' : c * den + 1 ≤ num := by
    have : c * den < num := by exact_mod_cast h
    omega
  have h'' : (c : ℚ) * den + 1 ≤ num := by exact_mod_cast h'
  rw [le_sub_iff_add_le, div_add' _ _ _ hden'.ne', div_le_div_iff_of_pos_right hden']
  linarith

variable {num den : Nat} {x : ℚ} {u : Int}

/-- The grid of a quotient by whole numbers up to `2 ^ 53` is fine enough for all whole numbers, unless
the quotient is on it. -/
theorem IsRounding.exponent_le (h : IsRounding (num / den) x u) (hden : 0 < den) (hnum : num ≤ twoTo 53) :
    u ≤ 0 ∨ x = num / den := by
  have hden' : (1 : ℚ) ≤ den := by exact_mod_cast hden
  have hq : (num / den : ℚ) ≤ 2 ^ 53 := by
    have hnum' : (num : ℚ) ≤ 2 ^ 53 := by
      rw [← cast_twoTo]
      exact_mod_cast hnum
    exact le_trans (div_le_self (by positivity) hden') hnum'
  by_cases hu : u ≤ 0
  · exact .inl hu
  · rcases h.normal with hmin | hnormal
    · rw [hmin] at hu
      exact absurd (by decide) hu
    · -- The quotient is `2 ^ 53` itself, at the exponent one.
      have hone : (2 : ℚ) ^ (1 : Int) ≤ 2 ^ u := two_zpow_mono (by omega)
      rw [zpow_one] at hone
      have htwo : (2 : ℚ) ^ u = 2 := by linarith
      refine .inr (h.eq_of_eq (k := 2 ^ 52) ?_)
      rw [htwo] at hnormal ⊢
      push_cast
      linarith

/-- A step of the grid is no more than two parts of the denominator; if it is as much, the quotient is on
the grid. -/
theorem IsRounding.step_le (h : IsRounding (num / den) x u) (hden : 0 < den) (hnum : num ≤ twoTo 53)
    (hsmall : den < twoTo 1075) : (2 : ℚ) ^ u / 2 < 1 / den ∨ x = num / den := by
  have hden' : (0 : ℚ) < den := by exact_mod_cast hden
  rw [div_lt_div_iff₀ (by norm_num) hden', one_mul]
  rcases h.normal with hmin | hnormal
  · -- At the least exponent the bound on the denominator counts.
    refine .inl ?_
    have hstep : (2 : ℚ) ^ minExponent * (twoTo 1075 : Nat) = 2 := by
      rw [cast_twoTo, ← zpow_natCast, ← zpow_add₀ (by norm_num)]
      exact zpow_one 2
    have hsmall' : (den : ℚ) < (twoTo 1075 : Nat) := Nat.cast_lt.2 hsmall
    have hpos := two_zpow_pos minExponent
    calc (2 : ℚ) ^ u * den = 2 ^ minExponent * den := by rw [hmin]
      _ < 2 ^ minExponent * (twoTo 1075 : Nat) := mul_lt_mul_of_pos_left hsmall' hpos
      _ = 2 := hstep
  · rw [le_div_iff₀ hden'] at hnormal
    have hnum' : (num : ℚ) ≤ 2 ^ 53 := by
      rw [← cast_twoTo]
      exact_mod_cast hnum
    rcases lt_or_eq_of_le (show (2 : ℚ) ^ u * den ≤ 2 by linarith) with hlt | heq
    · exact .inl hlt
    · refine .inr (h.eq_of_eq (k := 2 ^ 52) ?_)
      rw [div_eq_iff hden'.ne']
      push_cast
      linarith

/-- The ceiling survives the rounding of a quotient of numbers that are not too large. -/
theorem IsRounding.ceil_eq (h : IsRounding (num / den) x u) (hden : 0 < den) (hnum : num ≤ twoTo 53)
    (hsmall : den < twoTo 1075) : ⌈x⌉ = ⌈(num / den : ℚ)⌉ := by
  rcases h.exponent_le hden hnum with hu | hx
  · rcases h.step_le hden hnum hsmall with hstep | hx
    · have hnonneg : (0 : ℚ) ≤ num / den := div_nonneg (Nat.cast_nonneg _) (Nat.cast_nonneg _)
      have hbelow (c : Nat) (hc : (c : ℚ) ≤ num / den) : (c : ℚ) ≤ x := by
        obtain ⟨k, hk⟩ := exists_grid hu c
        rw [hk] at hc ⊢
        exact h.le_of_le k hc
      obtain ⟨c, hc⟩ : ∃ c : Nat, ⌈(num / den : ℚ)⌉ = c := Int.eq_ofNat_of_zero_le (Int.ceil_nonneg hnonneg)
      obtain ⟨hlow, hhigh⟩ := Int.ceil_eq_iff.1 hc
      rw [hc, Int.ceil_eq_iff]
      refine ⟨?_, ?_⟩
      · cases c with
        | zero =>
          have := hbelow 0 (by simpa using hnonneg)
          push_cast at this ⊢
          linarith
        | succ c =>
          have hlow' : (c : ℚ) < num / den := by
            push_cast at hlow
            linarith
          have hgap := one_div_le_of_lt hden hlow'
          have hnear := (abs_le.1 h.near).1
          push_cast
          linarith
      · obtain ⟨k, hk⟩ := exists_grid hu c
        push_cast at hhigh ⊢
        rw [hk] at hhigh ⊢
        exact h.of_le_of_le k hhigh
    · rw [hx]
  · rw [hx]

end PagedSelect.Number
