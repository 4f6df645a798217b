import PagedSelect.Calendar.Basic
import PagedSelect.Number.Rounding
import PagedSelect.Text.Digit
/-!
# Reading calendar texts

The ISO 8601 texts that calendar values write: the date, a `T` or a space, the time with optional
seconds and a fraction of at most six digits, and an optional `Z` or offset, which may have seconds
and a fraction as well.
-/

namespace PagedSelect.Calendar

/-- A number of exactly `count` ASCII digits, and what follows it. -/
def fixed? (count : Nat) (cs : List Char) : Option (Nat × List Char) := do
  let digits ← (cs.take count).mapM Text.asciiDigit?
  if digits.length = count then some (Text.ofDigits digits, cs.drop count) else none

def after? (c : Char) : List Char → Option (List Char)
  | d :: r => if c == d then some r else none
  | [] => none

def monthDays (year month : Nat) : Nat :=
  if month = 2 then
    if year % 4 = 0 && (year % 100 != 0 || year % 400 = 0) then 29 else 28
  else if month = 4 || month = 6 || month = 9 || month = 11 then 30 else 31

def date? (cs : List Char) : Option (Date × List Char) := do
  let (year, cs) ← fixed? 4 cs
  let (month, cs) ← fixed? 2 (← after? '-' cs)
  let (day, cs) ← fixed? 2 (← after? '-' cs)
  if 1 ≤ year && 1 ≤ month && month ≤ 12 && 1 ≤ day && day ≤ monthDays year month then
    some (⟨year, month, day⟩, cs)
  else none

/-- Seconds behind a colon, zero if there are none. -/
def seconds? : List Char → Option (Nat × List Char)
  | ':' :: r => fixed? 2 r
  | cs => some (0, cs)

/-- A fraction of a second in microseconds, zero if there is none. -/
def fraction? : List Char → Option (Nat × List Char)
  | '.' :: r => do
    let ds := r.takeWhile Char.isDigit
    if ds.isEmpty || 6 < ds.length then none
    else
      let digits ← ds.mapM Text.asciiDigit?
      some (Text.ofDigits digits * Number.tenTo (6 - ds.length), r.dropWhile Char.isDigit)
  | cs => some (0, cs)

/-- Hours, minutes, seconds and microseconds of a day, and what follows them. -/
def clock? (cs : List Char) : Option ((Nat × Nat × Nat × Nat) × List Char) := do
  let (hour, cs) ← fixed? 2 cs
  let (minute, cs) ← fixed? 2 (← after? ':' cs)
  let (second, cs) ← seconds? cs
  let (micro, cs) ← fraction? cs
  if hour < 24 && minute < 60 && second < 60 then some ((hour, minute, second, micro), cs) else none

/-- An offset up to the end of the text, in microseconds. -/
def offset? : List Char → Option (Option Int)
  | [] => some none
  | ['Z'] => some (some 0)
  | c :: r => do
    let ((hours, minutes, seconds, micro), rest) ← clock? r
    let n := ((hours * 60 + minutes) * 60 + seconds) * 1000000 + micro
    if rest.isEmpty && (c == '+' || c == '-') then some (some (Number.signed (c == '-') n)) else none

/-- A time of day up to the end of the text. -/
def time? (cs : List Char) : Option Time := do
  let ((hour, minute, second, micro), cs) ← clock? cs
  return ⟨hour, minute, second, micro, ← offset? cs⟩

end PagedSelect.Calendar

namespace PagedSelect

def Date.ofText? (s : String) : Option Date :=
  match Calendar.date? s.toList with
  | some (d, []) => some d
  | _ => none

def Time.ofText? (s : String) : Option Time := Calendar.time? s.toList

/-- Reads a moment; a date alone stands for its midnight. -/
def DateTime.ofText? (s : String) : Option DateTime := do
  let (date, cs) ← Calendar.date? s.toList
  match cs with
  | [] => return ⟨date, ⟨0, 0, 0, 0, none⟩⟩
  | c :: r =>
    if c == 'T' || c == ' ' then return ⟨date, ← Calendar.time? r⟩ else none

end PagedSelect
