import PagedSelect.Number.Rounding
import PagedSelect.Text.Blank
import PagedSelect.Text.Digit
/-!
# Doubles

Binary floating-point numbers of 64 bits as exact numbers: a sign, a mantissa and a power of two.
Arithmetic is exact and then rounded once, by `nearest?`.
-/

namespace PagedSelect

/-- A binary floating-point number; `finite` stands for `± mantissa * 2 ^ exponent`. -/
inductive Double where
  | nan
  | infinity (negative : Bool)
  | finite (negative : Bool) (mantissa : Nat) (exponent : Int)
deriving DecidableEq, Repr

namespace Double

open Number

inductive NotFinite where
  | nan
  | infinity
deriving DecidableEq, Repr

/-- Numerator and denominator of `mantissa * 2 ^ exponent`. -/
def ratio (mantissa : Nat) (exponent : Int) : Nat × Nat :=
  if 0 ≤ exponent then (mantissa * twoTo exponent.toNat, 1) else (mantissa, twoTo (-exponent).toNat)

/-- The double nearest to a quotient; an infinity if it is too large. -/
def ofRatio (negative : Bool) (num den : Nat) : Double :=
  match nearest? num den with
  | some (m, e) => finite negative m e
  | none => infinity negative

/-- The double nearest to a whole number, if it is not too large. -/
def ofInt? (n : Int) : Option Double :=
  (nearest? n.natAbs 1).map fun (m, e) => finite (n < 0) m e

def isPositive : Double → Bool
  | nan => false
  | infinity negative => !negative
  | finite negative m _ => !negative && m != 0

def isNegative : Double → Bool
  | nan => false
  | infinity negative => negative
  | finite negative m _ => negative && m != 0

def isZero : Double → Bool
  | finite _ m _ => m == 0
  | _ => false

def isWhole : Double → Bool
  | finite _ m e => let (n, d) := ratio m e; n % d == 0
  | _ => false

/-- The whole part: the number rounded toward zero. -/
def truncate : Double → Except NotFinite Int
  | nan => .error .nan
  | infinity _ => .error .infinity
  | finite negative m e =>
    let (n, d) := ratio m e
    .ok (signed negative (n / d))

/-- The least whole number that is no smaller than `± m * 2 ^ e`. -/
def ceiling (negative : Bool) (m : Nat) (e : Int) : Int :=
  let (n, d) := ratio m e
  signed negative (if negative then n / d else (n + d - 1) / d)

/-- A signed numerator over a denominator, rounded; zero is positive. -/
def ofSigned (num : Int) (den : Nat) : Double := ofRatio (num < 0) num.natAbs den

def minusOne : Double → Double
  | finite negative m e =>
    let (n, d) := ratio m e
    ofSigned (signed negative n - d) d
  | x => x

def times : Double → Double → Double
  | nan, _ | _, nan => nan
  | infinity s, infinity t => infinity (s != t)
  | infinity s, finite t m _ | finite t m _, infinity s => if m = 0 then nan else infinity (s != t)
  | finite s m e, finite t n f =>
    let (a, b) := ratio m e
    let (c, d) := ratio n f
    ofRatio (s != t) (a * c) (b * d)

/-! ## Reading -/

/-- The double nearest to `digits * 10 ^ power`; powers far outside the range of doubles are not
expanded. -/
def ofScientific (negative : Bool) (digits : Nat) (power : Int) (length : Nat) : Double :=
  if digits = 0 then finite negative 0 minExponent
  else if 400 < power + length then infinity negative
  else if power + length < -400 then finite negative 0 minExponent
  else if 0 ≤ power then ofRatio negative (digits * tenTo power.toNat) 1
  else ofRatio negative digits (tenTo (-power).toNat)

/-- The values of a text of ASCII digits; nothing if another character is among them. -/
def digitValues? (cs : List Char) : Option (List Nat) := cs.mapM Text.asciiDigit?

/-- The exponent behind the letter `e`, zero if there is none. -/
def exponentPart? : List Char → Option Int
  | [] => some 0
  | c :: r =>
    if c == 'e' || c == 'E' then
      let (negative, r) := Text.splitSign r
      match r, digitValues? r with
      | _ :: _, some ds => some (signed negative (Text.ofDigits ds))
      | _, _ => none
    else none

/-- A decimal fraction with an optional exponent, without its sign. -/
def magnitude? (negative : Bool) (cs : List Char) : Option Double := do
  let whole := cs.takeWhile Char.isDigit
  let rest := cs.dropWhile Char.isDigit
  let (fraction, rest) := match rest with
    | '.' :: r => (r.takeWhile Char.isDigit, r.dropWhile Char.isDigit)
    | r => ([], r)
  let digits ← digitValues? (whole ++ fraction)
  if digits.isEmpty then none
  else
    let power ← exponentPart? rest
    return ofScientific negative (Text.ofDigits digits) (power - fraction.length) digits.length

/-- Reads a decimal fraction, an infinity or `nan`, in any letter case and with blanks around it. -/
def ofText? (s : String) : Option Double :=
  let (negative, cs) := Text.splitSign (Text.trimEnds Text.isSpace s.toList)
  match String.ofList (cs.map Char.toLower) with
  | "nan" => some nan
  | "inf" | "infinity" => some (infinity negative)
  | _ => magnitude? negative cs

end Double

end PagedSelect
