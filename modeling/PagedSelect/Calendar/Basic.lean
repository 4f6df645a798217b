/-!
# Calendar values

Dates, times of day, moments and spans of time, as columns hold them, with their ISO 8601 texts.
-/

namespace PagedSelect

structure Date where
  year : Nat
  month : Nat
  day : Nat
deriving DecidableEq, Repr

/-- A time of day, with its distance from universal time in microseconds if that is known. -/
structure Time where
  hour : Nat
  minute : Nat
  second : Nat
  microsecond : Nat
  offset : Option Int
deriving DecidableEq, Repr

structure DateTime where
  date : Date
  time : Time
deriving DecidableEq, Repr

/-- A span of time: days, then seconds of a day and microseconds of a second. -/
structure Duration where
  days : Int
  seconds : Nat
  microseconds : Nat
deriving DecidableEq, Repr

namespace Calendar

/-- A number in at least `width` digits. -/
def padded (width n : Nat) : String :=
  let digits := Nat.toDigits 10 n
  String.ofList (List.replicate (width - digits.length) '0' ++ digits)

/-- Microseconds behind a point, in six digits; nothing for zero. -/
def microText (n : Nat) : String := if n = 0 then "" else "." ++ padded 6 n

/-- Seconds with their microseconds behind a colon; nothing for zero. -/
def secondsText (micro : Nat) : String :=
  if micro = 0 then "" else ":" ++ padded 2 (micro / 1000000) ++ microText (micro % 1000000)

/-- A sign, then hours and minutes with a colon between them. -/
def hoursText (negative : Bool) (minutes : Nat) : String :=
  (if negative then "-" else "+") ++ padded 2 (minutes / 60) ++ ":" ++ padded 2 (minutes % 60)

/-- The distance from universal time, as in `+05:30`; seconds only if there are any. -/
def offsetText (offset : Int) : String :=
  hoursText (offset < 0) (offset.natAbs / 60000000) ++ secondsText (offset.natAbs % 60000000)

/-- The distance from universal time in whole minutes, seconds cut off; `Z` if it rounds to no second
at all. -/
def offsetMark (offset : Int) : String :=
  let seconds := (offset.natAbs + 500000) / 1000000
  if seconds = 0 then "Z" else hoursText (offset < 0) (seconds / 60)

example : offsetText (-19815000250) = "-05:30:15.000250" := by decide
example : offsetMark (-30000000) = "-00:00" := by decide

end Calendar

open Calendar

/-- The date as in `2024-02-29`. -/
def Date.text (d : Date) : String :=
  padded 4 d.year ++ "-" ++ padded 2 d.month ++ "-" ++ padded 2 d.day

/-- The time without its offset, as in `09:30:00`; microseconds in six digits if there are any. -/
def Time.clock (t : Time) : String :=
  padded 2 t.hour ++ ":" ++ padded 2 t.minute ++ ":" ++ padded 2 t.second ++ microText t.microsecond

def Time.text (t : Time) : String := t.clock ++ (t.offset.map offsetText).getD ""

/-- The time with its offset in minutes, universal time marked by `Z`. -/
def Time.wireText (t : Time) : String := t.clock ++ (t.offset.map offsetMark).getD ""

/-- Date and time with a space between them. -/
def DateTime.text (m : DateTime) : String := m.date.text ++ " " ++ m.time.text

/-- Date and time with a `T` between them, the offset in minutes. -/
def DateTime.wireText (m : DateTime) : String := m.date.text ++ "T" ++ m.time.wireText

def Duration.isZero (d : Duration) : Bool := d.days == 0 && d.seconds == 0 && d.microseconds == 0

/-- Days, then hours, minutes and seconds, as in `1 day, 1:01:01`. -/
def Duration.text (d : Duration) : String :=
  let unit := if d.days.natAbs = 1 then " day, " else " days, "
  let front := if d.days = 0 then "" else toString d.days ++ unit
  front ++ toString (d.seconds / 3600) ++ ":" ++ padded 2 (d.seconds / 60 % 60) ++ ":"
    ++ padded 2 (d.seconds % 60) ++ microText d.microseconds

def Duration.total (d : Duration) : Int :=
  (d.days * 86400 + d.seconds) * 1000000 + d.microseconds

def Duration.ofMicroseconds (n : Int) : Duration :=
  ⟨n / 1000000 / 86400, (n / 1000000 % 86400).toNat, (n % 1000000).toNat⟩

/-- A span from any number of days, seconds and microseconds. -/
def Duration.ofParts (days seconds microseconds : Int) : Duration :=
  .ofMicroseconds ((days * 86400 + seconds) * 1000000 + microseconds)

def Calendar.part (n : Nat) (unit : String) : String := if n = 0 then "" else toString n ++ unit

/-- The span as an ISO 8601 duration, as in `P1DT1H1M1S`; a year has 365 days. -/
def Duration.wireText (d : Duration) : String :=
  let n := d.total.natAbs
  let seconds := n / 1000000 % 86400
  let micro := n % 1000000
  let days := n / 1000000 / 86400
  let fraction := (Nat.toDigits 10 (1000000 + micro)).drop 1
  let trimmed := (fraction.reverse.dropWhile (· == '0')).reverse
  let point := if micro = 0 then "" else "." ++ String.ofList trimmed
  let last := if seconds % 60 = 0 && micro = 0 then "" else toString (seconds % 60) ++ point ++ "S"
  let clock := part (seconds / 3600) "H" ++ part (seconds / 60 % 60) "M" ++ last
  (if d.total < 0 then "-" else "") ++ "P" ++ part (days / 365) "Y" ++ part (days % 365) "D" ++
    (if n = 0 then "T0S" else if clock = "" then "" else "T" ++ clock)

example : Duration.wireText ⟨400, 1, 5⟩ = "P1Y35DT1.000005S" := by decide
example : Duration.wireText ⟨-1, 86399, 500000⟩ = "-PT0.5S" := by decide

end PagedSelect
