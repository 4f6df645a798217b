import PagedSelect.Number.Double
/-!
# Quantities

Limits and offsets as a caller may give them: a whole number, a flag (which counts as zero or one)
or a double.  A quantity keeps the form in which it was given; a statement writes its whole part.
-/

namespace PagedSelect

/-- An amount of rows. -/
inductive Quantity where
  | whole (n : Int)
  | flag (b : Bool)
  | real (x : Double)
deriving DecidableEq, Repr

namespace Quantity

/-- The number that a flag counts as. -/
def ofFlag (b : Bool) : Int := if b then 1 else 0

/-- An amount above zero. -/
def isPositive : Quantity → Bool
  | whole n => 0 < n
  | flag b => b
  | real x => x.isPositive

/-- An amount below zero. -/
def isNegative : Quantity → Bool
  | whole n => n < 0
  | flag _ => false
  | real x => x.isNegative

/-- An amount of zero or below; what is not a number is neither this nor above zero. -/
def isExhausted : Quantity → Bool
  | whole n => n ≤ 0
  | flag b => !b
  | real x => x.isNegative || x.isZero

/-- An amount of zero or above; what is not a number is neither this nor negative. -/
def isNatural : Quantity → Bool
  | whole n => 0 ≤ n
  | flag _ => true
  | real x => x.isPositive || x.isZero

/-- The whole part of an amount. -/
def truncate : Quantity → Except Double.NotFinite Int
  | whole n => .ok n
  | flag b => .ok (ofFlag b)
  | real x => x.truncate

/-- An amount less one. -/
def minusOne : Quantity → Quantity
  | whole n => whole (n - 1)
  | flag b => whole (ofFlag b - 1)
  | real x => real x.minusOne

/-- The whole number that an amount is, if it is not a double. -/
def int? : Quantity → Option Int
  | whole n => some n
  | flag b => some (ofFlag b)
  | real _ => none

/-- An amount as a double, unless it is too large for one. -/
def double? : Quantity → Option Double
  | whole n => Double.ofInt? n
  | flag b => Double.ofInt? (ofFlag b)
  | real x => some x

/-- The product of two amounts: exact for whole numbers, otherwise in doubles, where a factor may be
too large. -/
def times? (a b : Quantity) : Option Quantity :=
  match a.int?, b.int? with
  | some m, some n => some (whole (m * n))
  | _, _ => do return real ((← a.double?).times (← b.double?))

end Quantity

end PagedSelect
