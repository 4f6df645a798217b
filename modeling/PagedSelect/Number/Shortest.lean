import PagedSelect.Number.Double
/-!
# The shortest text of a double

`shortest` finds the fewest decimal digits that read back as a given double, and of the decimals
with so few digits the one nearest to it (an exact tie goes to the even last digit).  It tries one
digit, two digits, and so on up to seventeen, on the two neighbours of the number on that decimal
grid, in exact arithmetic.  `FloatLayout` holds the choices of a notation and `Scientific.text` applies them.
-/

namespace PagedSelect.Number

/-- A decimal `digits * 10 ^ power`. -/
structure Scientific where
  digits : Nat
  power : Int
deriving DecidableEq, Repr

/-- The numbers that round to a double, in units of a quarter of its last place: from `low` to
`high`, with the ends if `closed`, around `centre`. -/
structure Interval where
  low : Nat
  centre : Nat
  high : Nat
  closed : Bool

/-- What rounds to `mantissa * 2 ^ exponent`; below a power of two the neighbours lie closer. -/
def interval (mantissa : Nat) (exponent : Int) : Interval :=
  let narrow := mantissa = twoTo 52 ∧ minExponent < exponent
  ⟨4 * mantissa - (if narrow then 1 else 2), 4 * mantissa, 4 * mantissa + 2, mantissa % 2 = 0⟩

/-- Whether `a / b` lies in the interval whose units are `unit / one`. -/
def Interval.holds (i : Interval) (unit one a b : Nat) : Bool :=
  let left := a * one
  if i.closed then i.low * unit * b ≤ left && left ≤ i.high * unit * b
  else i.low * unit * b < left && left < i.high * unit * b

/-- The power of ten of the first digit of `n / d`, for `n` and `d` above zero. -/
def leadingPower (n d : Nat) : Int :=
  let guess := ((Nat.toDigits 10 n).length : Int) - (Nat.toDigits 10 d).length
  let reaches := if 0 ≤ guess then d * tenTo guess.toNat ≤ n else d ≤ n * tenTo (-guess).toNat
  if reaches then guess else guess - 1

/-- The distance of two numbers. -/
def gap (a b : Nat) : Nat := (a - b) + (b - a)

/-- The nearer of the two decimals of `count` digits around a number, if it rounds to that number. -/
def onGrid? (i : Interval) (unit one : Nat) (leading : Int) (count : Nat) : Option Scientific :=
  let power := leading - count + 1
  let n := i.centre * unit
  let (stepN, stepD) := if 0 ≤ power then (tenTo power.toNat, 1) else (1, tenTo (-power).toNat)
  let below := n * stepD / (one * stepN)
  let fits (q : Nat) := i.holds unit one (q * stepN) stepD
  let distance (q : Nat) := gap (q * stepN * one) (n * stepD)
  let nearer :=
    if distance below < distance (below + 1) then below
    else if distance (below + 1) < distance below then below + 1
    else if below % 2 = 0 then below else below + 1
  if fits below && fits (below + 1) then some ⟨nearer, power⟩
  else if fits below then some ⟨below, power⟩
  else if fits (below + 1) then some ⟨below + 1, power⟩
  else none

/-- The shortest decimal of a positive double. -/
def shortest (mantissa : Nat) (exponent : Int) : Scientific :=
  let i := interval mantissa exponent
  let (unit, one) := Double.ratio 1 (exponent - 2)
  let leading := leadingPower (i.centre * unit) one
  ((List.range 17).findSome? fun k => onGrid? i unit one leading (k + 1)).getD ⟨mantissa, exponent⟩

/-- How a notation writes doubles. -/
structure FloatLayout where
  /-- The least and the greatest power of the first digit that is written without an exponent. -/
  leastPower : Int
  greatestPower : Int
  /-- What follows a whole number written without an exponent. -/
  wholeEnd : String
  /-- The mark before an exponent, and the fewest digits of one. -/
  exponentMark : String
  exponentWidth : Nat
  nanText : String
  infinityText : String

/-- A number without zeros at its end, and how many there were. -/
def dropZeros : Nat → Nat → Nat × Nat
  | 0, n => (n, 0)
  | fuel + 1, n =>
    if n % 10 = 0 ∧ n ≠ 0 then let (m, k) := dropZeros fuel (n / 10); (m, k + 1) else (n, 0)

/-- Digits with a point behind the first `places` of them; zeros fill up on either side. -/
def withPoint (digits : List Char) (places : Int) (wholeEnd : String) : String :=
  if places ≤ 0 then String.ofList ('0' :: '.' :: (List.replicate (-places).toNat '0' ++ digits))
  else
    let n := places.toNat
    if digits.length ≤ n then
      String.ofList (digits ++ List.replicate (n - digits.length) '0') ++ wholeEnd
    else String.ofList (digits.take n ++ '.' :: digits.drop n)

/-- The text of a decimal. -/
def Scientific.text (layout : FloatLayout) (s : Scientific) : String :=
  let (n, zeros) := dropZeros 17 s.digits
  let digits := Nat.toDigits 10 n
  let power := s.power + zeros + digits.length - 1
  if layout.leastPower ≤ power && power ≤ layout.greatestPower then
    withPoint digits (power + 1) layout.wholeEnd
  else
    let size := Nat.toDigits 10 power.natAbs
    let filled := List.replicate (layout.exponentWidth - size.length) '0' ++ size
    let point := if digits.length = 1 then [] else '.' :: digits.drop 1
    String.ofList (digits.take 1 ++ point) ++ layout.exponentMark ++ (if power < 0 then "-" else "+")
      ++ String.ofList filled

end PagedSelect.Number

namespace PagedSelect.Double

open Number

/-- The text of a double in a layout. -/
def text (layout : FloatLayout) : Double → String
  | nan => layout.nanText
  | infinity negative => (if negative then "-" else "") ++ layout.infinityText
  | finite negative m e =>
    (if negative then "-" else "") ++
      (if m = 0 then "0" ++ layout.wholeEnd else (shortest m e).text layout)

end PagedSelect.Double
