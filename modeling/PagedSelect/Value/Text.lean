import PagedSelect.Number.Numeral
import PagedSelect.Number.Shortest
import PagedSelect.Value.Basic
/-!
# Texts of values

`Value.literal` writes a value so that its type shows: texts in quotes, constructors by name.
`Value.plain` is what a value stands for as a text: a text stands for itself, and a calendar value,
a decimal or a record is written without its constructor.  Neither can be written if it shows a whole
number of too many digits: `Value.isWritable` says whether it can.
-/

namespace PagedSelect

/-- Doubles are written without an exponent from 1e-4 to below 1e16, and always show that they are
no whole numbers; exponents have a sign and at least two digits. -/
def floatLayout : Number.FloatLayout := ⟨-4, 15, ".0", "e", 2, "nan", "inf"⟩

namespace Calendar

def arguments (xs : List Nat) : String := ", ".intercalate (xs.map toString)

/-- The arguments of a span that are not zero, by name. -/
def spanArguments (d : Duration) : List String :=
  (if d.days = 0 then [] else ["days=" ++ toString d.days]) ++
  (if d.seconds = 0 then [] else ["seconds=" ++ toString d.seconds]) ++
  (if d.microseconds = 0 then [] else ["microseconds=" ++ toString d.microseconds])

/-- A span by its constructor. -/
def spanLiteral (d : Duration) : String :=
  "datetime.timedelta(" ++ (if d.isZero then "0" else ", ".intercalate (spanArguments d)) ++ ")"

/-- An offset by its constructor. -/
def offsetLiteral (offset : Int) : String :=
  if offset = 0 then "datetime.timezone.utc"
  else "datetime.timezone(" ++ spanLiteral (.ofMicroseconds offset) ++ ")"

/-- The time of day in arguments: seconds and microseconds only if something but zeros is left. -/
def clockArguments (t : Time) : List Nat :=
  [t.hour, t.minute] ++
    if t.microsecond != 0 then [t.second, t.microsecond] else if t.second != 0 then [t.second] else []

/-- The last argument, naming the offset if there is one. -/
def zoneArgument (t : Time) : String :=
  match t.offset with
  | none => ""
  | some n => ", tzinfo=" ++ offsetLiteral n

end Calendar

open Calendar Text

/-- The text of a unique identifier: 32 hexadecimal digits in five groups. -/
def uuidText (n : Nat) : String :=
  let ds := hexDigits 32 n
  "-".intercalate ([ds.take 8, (ds.drop 8).take 4, (ds.drop 12).take 4, (ds.drop 16).take 4, ds.drop 20].map
    String.ofList)

namespace Value

mutual

def literal : Value → String
  | null => "None"
  | bool b => if b then "True" else "False"
  | int n => toString n
  | float x => x.text floatLayout
  | text s => quoted s
  | bytes b => quotedBytes b
  | list items => "[" ++ ", ".intercalate (literals items) ++ "]"
  | tuple items => "(" ++ ", ".intercalate (literals items) ++ (if items.length = 1 then ",)" else ")")
  | map members => "\x7b" ++ ", ".intercalate (memberLiterals members) ++ "\x7d"
  | datetime m =>
    "datetime.datetime(" ++ arguments ([m.date.year, m.date.month, m.date.day] ++ clockArguments m.time)
      ++ zoneArgument m.time ++ ")"
  | date d => "datetime.date(" ++ arguments [d.year, d.month, d.day] ++ ")"
  | time t => "datetime.time(" ++ arguments (clockArguments t) ++ zoneArgument t ++ ")"
  | duration d => spanLiteral d
  | decimal d => "Decimal('" ++ d.text ++ "')"
  | uuid n => "UUID('" ++ uuidText n ++ "')"
  | record name fields => name ++ "(" ++ ", ".intercalate (fieldLiterals fields) ++ ")"
  | schema name => "<class '__main__." ++ name ++ "'>"
  | entity _ => "<Entity>"

def literals : List Value → List String
  | [] => []
  | v :: r => v.literal :: literals r

/-- Members as a map shows them. -/
def memberLiterals : Members → List String
  | [] => []
  | (k, v) :: r => (quoted k ++ ": " ++ v.literal) :: memberLiterals r

/-- Fields as a record shows them. -/
def fieldLiterals : Members → List String
  | [] => []
  | (k, v) :: r => (k ++ "=" ++ v.literal) :: fieldLiterals r

end

/-- The text that a value stands for. -/
def plain : Value → String
  | text s => s
  | datetime m => m.text
  | date d => d.text
  | time t => t.text
  | duration d => d.text
  | decimal d => d.text
  | uuid n => uuidText n
  | record _ fields => " ".intercalate (fieldLiterals fields)
  | v => v.literal

mutual

/-- Whether every whole number that a value shows is short enough to be written. -/
def isWritable : Value → Bool
  | int n => (Numeral.write? n).isSome
  | list items | tuple items => allWritable items
  | map members | record _ members => membersWritable members
  | _ => true

/-- Whether all values of a list can be written. -/
def allWritable : List Value → Bool
  | [] => true
  | v :: r => v.isWritable && allWritable r

/-- Whether the values of all members can be written. -/
def membersWritable : Members → Bool
  | [] => true
  | (_, v) :: r => v.isWritable && membersWritable r

end

end Value

end PagedSelect
