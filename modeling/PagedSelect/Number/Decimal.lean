import PagedSelect.Number.Double
/-!
# Decimals

Decimal floating-point numbers that keep their written form: `1.10` is not `1.1`.  The text of one
is positional while its exponent is not above zero and at most five zeros follow the point;
otherwise it has one digit before the point and a signed exponent.
-/

namespace PagedSelect

/-- A decimal number; `finite` stands for `± coefficient * 10 ^ exponent`. -/
inductive Decimal where
  | finite (negative : Bool) (coefficient : Nat) (exponent : Int)
  | infinity (negative : Bool)
  | nan (negative signaling : Bool) (payload : List Char)
deriving DecidableEq, Repr

namespace Decimal

def isZero : Decimal → Bool
  | finite _ c _ => c == 0
  | _ => false

/-- Numerator and denominator of the magnitude of a finite decimal. -/
def ratio (coefficient : Nat) (exponent : Int) : Nat × Nat :=
  if 0 ≤ exponent then (coefficient * Number.tenTo exponent.toNat, 1)
  else (coefficient, Number.tenTo (-exponent).toNat)

/-- The whole part: the number rounded toward zero. -/
def truncate : Decimal → Except Double.NotFinite Int
  | nan _ _ _ => .error .nan
  | infinity _ => .error .infinity
  | finite negative c e =>
    let (n, d) := ratio c e
    .ok (Number.signed negative (n / d))

def isWhole : Decimal → Bool
  | finite _ c e => let (n, d) := ratio c e; n % d == 0
  | _ => false

def toDouble : Decimal → Double
  | nan _ _ _ => .nan
  | infinity negative => .infinity negative
  | finite negative c e => Double.ofScientific negative c e (Nat.toDigits 10 c).length

/-- The digits of a finite decimal with the point behind the first `places` of them. -/
def pointed (digits : List Char) (places : Int) : List Char :=
  if places ≤ 0 then '0' :: '.' :: (List.replicate (-places).toNat '0' ++ digits)
  else if digits.length ≤ places then digits ++ List.replicate (places.toNat - digits.length) '0'
  else digits.take places.toNat ++ '.' :: digits.drop places.toNat

def text : Decimal → String
  | nan negative signaling payload =>
    (if negative then "-" else "") ++ (if signaling then "sNaN" else "NaN") ++ String.ofList payload
  | infinity negative => (if negative then "-" else "") ++ "Infinity"
  | finite negative c e =>
    let digits := Nat.toDigits 10 c
    let places := e + digits.length
    let positional := e ≤ 0 ∧ -6 < places
    let point := if positional then places else 1
    let power := places - point
    let mark := if power = 0 then "" else (if power < 0 then "E-" else "E+") ++ toString power.natAbs
    (if negative then "-" else "") ++ String.ofList (pointed digits point) ++ mark

/-- Reads a decimal fraction with an optional exponent, an infinity, or a `nan` with digits. -/
def ofText? (s : String) : Option Decimal :=
  let (negative, cs) := Text.splitSign (Text.trimEnds Text.isSpace s.toList)
  match cs.map Char.toLower with
  | ['i', 'n', 'f'] | ['i', 'n', 'f', 'i', 'n', 'i', 't', 'y'] => some (infinity negative)
  | 'n' :: 'a' :: 'n' :: r => (Double.digitValues? r).map fun _ => nan negative false r
  | 's' :: 'n' :: 'a' :: 'n' :: r => (Double.digitValues? r).map fun _ => nan negative true r
  | lower => do
    let whole := lower.takeWhile Char.isDigit
    let (fraction, rest) := match lower.dropWhile Char.isDigit with
      | '.' :: r => (r.takeWhile Char.isDigit, r.dropWhile Char.isDigit)
      | r => ([], r)
    let digits ← Double.digitValues? (whole ++ fraction)
    if digits.isEmpty then none
    else
      let power ← Double.exponentPart? rest
      return finite negative (Text.ofDigits digits) (power - fraction.length)

example : (ofText? "1.10").map text = some "1.10" := by decide
example : (ofText? "1e5").map text = some "1E+5" := by decide
example : (ofText? "-0.0000001").map text = some "-1E-7" := by decide

end Decimal

end PagedSelect
