import PagedSelect.Calendar.Basic
import PagedSelect.Number.Numeral
import PagedSelect.Number.Quantity
/-!
# Time since 1970

A moment given as an amount of time since the start of 1970, in seconds up to 20000000000 of them and
in milliseconds beyond; before 1970 the amount is negative.  `Calendar.sinceEpoch` is the moment of an
amount, in universal time and to the nearest microsecond, and `Calendar.amount?` reads the amount that
a text gives.
-/

namespace PagedSelect.Calendar

open Number

def dateOfDays (days : Int) : Date :=
  let z := days + 719468
  let era := z / 146097
  let doe := (z % 146097).toNat
  let yoe := (doe - doe / 1460 + doe / 36524 - doe / 146096) / 365
  let doy := doe - (365 * yoe + yoe / 4 - yoe / 100)
  let mp := (5 * doy + 2) / 153
  let day := doy - (153 * mp + 2) / 5 + 1
  let month := if mp < 10 then mp + 3 else mp - 9
  let year := (yoe : Int) + era * 400 + if month ≤ 2 then 1 else 0
  ⟨year.toNat, month, day⟩

/-- The moment so many microseconds after the start of 1970, in universal time. -/
def momentOfMicroseconds (n : Int) : DateTime :=
  let seconds := n / 1000000
  let clock := (seconds % 86400).toNat
  ⟨dateOfDays (seconds / 86400), ⟨clock / 3600, clock / 60 % 60, clock % 60, (n % 1000000).toNat, some 0⟩⟩

/-- Why an amount of time is no moment. -/
inductive EpochFault where
  | tooEarly
  | tooLate
  | notNumber
deriving DecidableEq, Repr

def EpochFault.message : EpochFault → String
  | tooEarly => "dates before 0000 are not supported as unix timestamps"
  | tooLate => "dates after 9999 are not supported as unix timestamps"
  | notNumber => "NaN values not permitted"

def firstSecond : Int := -62167219200

def lastSecond : Int := 253402300799

/-- The moment so many microseconds after the start of 1970, if it lies in the years 0 to 9999. -/
def momentWithin (n : Int) : Except EpochFault DateTime :=
  if n / 1000000 < firstSecond then .error .tooEarly
  else if lastSecond < n / 1000000 then .error .tooLate
  else .ok (momentOfMicroseconds n)

/-- The greatest amount that counts seconds; beyond it milliseconds are counted. -/
def secondsBound : Nat := 20000000000

def wholeMicroseconds (n : Int) : Int := if n.natAbs ≤ secondsBound then n * 1000000 else n * 1000

/-- The whole number nearest to a double that is not negative; a half goes up. -/
def nearestWhole : Double → Nat
  | .finite _ m e => let (n, d) := Double.ratio m e; (2 * n + d) / (2 * d)
  | _ => 0

/-- The microseconds of `num / den` units; those of the fraction are rounded. -/
def unitMicroseconds (unit num den : Nat) : Nat :=
  num / den * unit + nearestWhole (Double.ofRatio false (num % den * unit) den)

def realMicroseconds (negative : Bool) (m : Nat) (e : Int) : Int :=
  let (n, d) := Double.ratio m e
  signed negative (unitMicroseconds (if n ≤ secondsBound * d then 1000000 else 1000) n d)

def sinceEpoch : Quantity → Except EpochFault DateTime
  | .whole n => momentWithin (wholeMicroseconds n)
  | .flag b => momentWithin (wholeMicroseconds (Quantity.ofFlag b))
  | .real .nan => .error .notNumber
  | .real (.infinity negative) => .error (if negative then .tooEarly else .tooLate)
  | .real (.finite negative m e) => momentWithin (realMicroseconds negative m e)

/-- The amount that a text gives: a number of at most 64 bits, or a decimal fraction, which may have no
digits on one side of its point. -/
def amount? (cs : List Char) : Option Quantity :=
  let (negative, cs) := Text.splitSign cs
  let whole := cs.takeWhile Char.isDigit
  match cs.dropWhile Char.isDigit with
  | [] => do
    let n := signed negative (Text.ofDigits (← Double.digitValues? whole))
    if whole.isEmpty || !Numeral.fitsWord n then none else some (.whole n)
  | '.' :: fraction => do
    let digits ← Double.digitValues? (whole ++ fraction)
    if digits.isEmpty then none
    else some (.real (Double.ofScientific negative (Text.ofDigits digits) (-fraction.length) digits.length))
  | _ => none

example : (sinceEpoch (.whole 951782400)).toOption = some ⟨⟨2000, 2, 29⟩, ⟨0, 0, 0, 0, some 0⟩⟩ := by
  decide
example : (sinceEpoch (.whole (-20000000001))).toOption =
    some ⟨⟨1969, 5, 14⟩, ⟨12, 26, 39, 999000, some 0⟩⟩ := by
  decide
example : ("-.5".toList |> amount?).bind (fun q => (sinceEpoch q).toOption) =
    some ⟨⟨1969, 12, 31⟩, ⟨23, 59, 59, 500000, some 0⟩⟩ := by
  decide +kernel

end PagedSelect.Calendar
