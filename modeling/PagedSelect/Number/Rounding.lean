/-!
# Rounding a quotient to a double

`nearest? num den` is the double nearest to `num / den`, as a mantissa below 2^53 and a power of two
no lower than 2^-1074; a tie goes to the even mantissa, and a quotient too large for a double is
refused.  All of it is exact integer arithmetic.
-/

namespace PagedSelect.Number

/-- A power of two. -/
def twoTo (n : Nat) : Nat := Nat.pow 2 n

/-- A power of ten. -/
def tenTo (n : Nat) : Nat := Nat.pow 10 n

/-- A natural number with its sign. -/
def signed (negative : Bool) (n : Nat) : Int := if negative then -(n : Int) else n

/-- The quotient `n / d` rounded to a whole number; a tie goes to the even one. -/
def halfEven (n d : Nat) : Nat :=
  let q := n / d
  let r := n % d
  if 2 * r < d then q else if d < 2 * r then q + 1 else if q % 2 = 0 then q else q + 1

/-- Numerator and denominator of `num / den` in units of `2 ^ e`. -/
def inUnits (num den : Nat) (e : Int) : Nat × Nat :=
  if 0 ≤ e then (num, den * twoTo e.toNat) else (num * twoTo (-e).toNat, den)

/-- The least exponent of a double. -/
def minExponent : Int := -1074

/-- The greatest exponent of a double whose mantissa has 53 digits. -/
def maxExponent : Int := 971

/-- The exponent at which the positive quotient `num / den` has a mantissa of 53 binary digits, or
the least one if the quotient is smaller than that. -/
def exponentOf (num den : Nat) : Int :=
  let e := (Nat.log2 num : Int) - Nat.log2 den - 52
  let (n, d) := inUnits num den e
  max minExponent (if n < twoTo 52 * d then e - 1 else e)

/-- Mantissa and exponent of the double nearest to `num / den`. -/
def nearest? (num den : Nat) : Option (Nat × Int) :=
  if num = 0 then some (0, minExponent)
  else
    let e := exponentOf num den
    let (n, d) := inUnits num den e
    let m := halfEven n d
    let (m, e) := if m = twoTo 53 then (twoTo 52, e + 1) else (m, e)
    if maxExponent < e then none else some (m, e)

example : nearest? 1 10 = some (7205759403792794, -56) := by decide
example : nearest? (twoTo 53 + 1) 1 = some (twoTo 52, 1) := by decide
example : nearest? (twoTo 1024) 1 = none := by decide +kernel

end PagedSelect.Number
