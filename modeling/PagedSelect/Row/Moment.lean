import PagedSelect.Calendar.Epoch
import PagedSelect.Calendar.Rfc3339
import PagedSelect.Request.Reading
/-!
# Reading moments

A moment in a row may be given as a moment, as a date (its midnight), as the text of either, or as an
amount of time since the start of 1970, which may be a text as well.  The calendar starts with the
year 1.  These too are rules of the library that validates rows.
-/

namespace PagedSelect

namespace Reading

open Calendar

/-- A moment in a year of the calendar. -/
def ofMoment (m : DateTime) : Reading DateTime :=
  if m.date.year = 0 then fail (.badMoment "year 0 is out of range") else done m

def midnight (d : Date) : DateTime := ⟨d, ⟨0, 0, 0, 0, none⟩⟩

/-- The midnight of the date that bytes write, each given as a character. -/
def ofDateText (octets : List Char) : Reading DateTime :=
  match dateOf octets with
  | .ok d => ofMoment (midnight d)
  | .error fault => fail (.badDate fault.message)

/-- Bytes as characters of the same numbers. -/
def octets (bytes : List UInt8) : List Char := bytes.map fun b => Char.ofNat b.toNat

/-- The moment that a text writes in full, or that its amount or its date stands for.  A whole amount
out of range is at fault itself; a fraction out of range counts as a date that is misspelt. -/
def ofMomentText (s : String) : Reading DateTime :=
  match moment? s.toList with
  | some m => ofMoment m
  | none =>
    match (amount? s.toList).map fun q => (q, sinceEpoch q) with
    | some (_, .ok m) => ofMoment m
    | some (.whole _, .error fault) => fail (.badDate fault.message)
    | _ => ofDateText (octets s.toUTF8.toList)

def ofAmount (q : Quantity) : Reading DateTime :=
  match sinceEpoch q with
  | .ok m => ofMoment m
  | .error fault => fail (.badMoment fault.message)

def moment : Value → Reading DateTime
  | .datetime m => done m
  | .date d => done (midnight d)
  | .text s => ofMomentText s
  | .bytes b =>
    match Text.ofUtf8 b with
    | .ok s => ofMomentText s
    | .error _ => ofDateText (octets b)
  | .int n => if (Double.ofInt? n).isNone then fail .notMoment else ofAmount (.whole n)
  | .float x => ofAmount (.real x)
  | .decimal (.nan _ true _) => fail .notMoment
  | .decimal d => ofAmount (.real d.toDouble)
  | _ => fail .notMoment

end Reading

end PagedSelect
