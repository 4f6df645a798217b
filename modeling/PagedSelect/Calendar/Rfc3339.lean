import PagedSelect.Calendar.Reader
/-!
# Moments as RFC 3339 writes them

A date, a separator, and a time of day with an optional offset.  Seconds may be missing; their
fraction stands behind a point or a comma, and what is finer than a microsecond is cut off.  The
offset has hours and minutes only, with a colon between them or without.  A text that is no date says
why, by `DateFault`.
-/

namespace PagedSelect.Calendar

/-- Why a text is no date. -/
inductive DateFault where
  | tooShort
  | badYear
  | badSeparator
  | badMonth
  | badDay
  | monthOutOfRange
  | dayOutOfRange
  | extraCharacters
deriving DecidableEq, Repr

def DateFault.message : DateFault → String
  | tooShort => "input is too short"
  | badYear => "invalid character in year"
  | badSeparator => "invalid date separator, expected \x60-\x60"
  | badMonth => "invalid character in month"
  | badDay => "invalid character in day"
  | monthOutOfRange => "month value is outside expected range of 1-12"
  | dayOutOfRange => "day value is outside expected range"
  | extraCharacters => "unexpected extra characters at the end of the input"

/-- A number of so many digits, or the given fault. -/
def digitsOr (fault : DateFault) (count : Nat) (cs : List Char) : Except DateFault (Nat × List Char) :=
  match fixed? count cs with
  | some r => .ok r
  | none => .error fault

def afterHyphen (cs : List Char) : Except DateFault (List Char) :=
  match after? '-' cs with
  | some r => .ok r
  | none => .error .badSeparator

/-- The date at the start of a text, from the year 0 on, and what follows it. -/
def dateHead (cs : List Char) : Except DateFault (Date × List Char) := do
  if cs.length < 10 then throw .tooShort
  let (year, cs) ← digitsOr .badYear 4 cs
  let (month, cs) ← digitsOr .badMonth 2 (← afterHyphen cs)
  let (day, cs) ← digitsOr .badDay 2 (← afterHyphen cs)
  if month = 0 || 12 < month then throw .monthOutOfRange
  if day = 0 || monthDays year month < day then throw .dayOutOfRange
  return (⟨year, month, day⟩, cs)

def dateOf (cs : List Char) : Except DateFault Date := do
  let (date, rest) ← dateHead cs
  if rest.isEmpty then return date else throw .extraCharacters

/-- The microseconds of a fraction of a second; digits after the sixth do not count. -/
def cutMicroseconds (digits : List Nat) : Nat :=
  let six := digits.take 6
  Text.ofDigits six * Number.tenTo (6 - six.length)

/-- A fraction of a second behind a point or a comma, and what follows it; zero if there is none. -/
def longFraction? : List Char → Option (Nat × List Char)
  | c :: r =>
    if c == '.' || c == ',' then do
      let digits ← (r.takeWhile Char.isDigit).mapM Text.asciiDigit?
      if digits.isEmpty then none else some (cutMicroseconds digits, r.dropWhile Char.isDigit)
    else some (0, c :: r)
  | [] => some (0, [])

/-- Seconds and microseconds behind a colon, and what follows them; zeros if there are none. -/
def secondPart? : List Char → Option ((Nat × Nat) × List Char)
  | ':' :: r => do
    let (second, r) ← fixed? 2 r
    let (micro, r) ← longFraction? r
    return ((second, micro), r)
  | cs => some ((0, 0), cs)

/-- What follows a sign, and whether it is a minus: a hyphen, or the minus sign proper. -/
def afterSign? : List Char → Option (Bool × List Char)
  | c :: r =>
    if c == '+' then some (false, r) else if c == '-' || c == '\u2212' then some (true, r) else none
  | [] => none

def skipColon : List Char → List Char
  | ':' :: r => r
  | cs => cs

/-- An offset up to the end of a text, in microseconds; less than a day. -/
def zone? : List Char → Option (Option Int)
  | [] => some none
  | ['Z'] | ['z'] => some (some 0)
  | cs => do
    let (negative, cs) ← afterSign? cs
    let (hours, cs) ← fixed? 2 cs
    let (minutes, rest) ← fixed? 2 (skipColon cs)
    if rest.isEmpty && hours < 24 && minutes < 60 then
      some (some (Number.signed negative ((hours * 60 + minutes) * 60000000)))
    else none

def timeTail? (cs : List Char) : Option Time := do
  let (hour, cs) ← fixed? 2 cs
  let (minute, cs) ← fixed? 2 (← after? ':' cs)
  let ((second, micro), cs) ← secondPart? cs
  if hour < 24 && minute < 60 && second < 60 then return ⟨hour, minute, second, micro, ← zone? cs⟩ else none

def isSeparator (c : Char) : Bool := c == 'T' || c == 't' || c == '_' || c == ' '

def moment? (cs : List Char) : Option DateTime := do
  let (date, rest) ← (dateHead cs).toOption
  match rest with
  | c :: r => if isSeparator c then return ⟨date, ← timeTail? r⟩ else none
  | [] => none

example : moment? "2024-05-01 09:30:00,123456789\u22120530".toList =
    some ⟨⟨2024, 5, 1⟩, ⟨9, 30, 0, 123456, some (-19800000000)⟩⟩ := by
  decide +kernel
example : moment? "2024-05-01T09:30.5".toList = none := by decide +kernel

end PagedSelect.Calendar
