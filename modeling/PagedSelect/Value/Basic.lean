import PagedSelect.Calendar.Basic
import PagedSelect.Number.Decimal
import PagedSelect.Number.Quantity
import PagedSelect.Text.Quoted
/-!
# Values

What a request, a binding or a row may hold.  Members of a map keep the order in which they were
written.  A `record` is a row that fits a schema, or a sort item; a `schema` is a row schema itself,
known by its name; an `entity` is an object of the caller, known by its attributes only.
-/

namespace PagedSelect

inductive Value where
  | null
  | bool (b : Bool)
  | int (n : Int)
  | float (x : Double)
  | text (s : String)
  | bytes (b : List UInt8)
  | list (items : List Value)
  | tuple (items : List Value)
  | map (members : List (String × Value))
  | datetime (m : DateTime)
  | date (d : Date)
  | time (t : Time)
  | duration (d : Duration)
  | decimal (d : Decimal)
  | uuid (n : Nat)
  | record (name : String) (fields : List (String × Value))
  | schema (name : String)
  | entity (attributes : List (String × Value))
deriving Repr, Inhabited

/-- The members of a map or the fields of a record. -/
abbrev Members := List (String × Value)

namespace Value

def typeName : Value → String
  | null => "NoneType"
  | bool _ => "bool"
  | int _ => "int"
  | float _ => "float"
  | text _ => "str"
  | bytes _ => "bytes"
  | list _ => "list"
  | tuple _ => "tuple"
  | map _ => "dict"
  | datetime _ => "datetime"
  | date _ => "date"
  | time _ => "time"
  | duration _ => "timedelta"
  | decimal _ => "Decimal"
  | uuid _ => "UUID"
  | record name _ => name
  | schema _ => "ModelMetaclass"
  | entity _ => "Entity"

/-- The name of a value's type together with the module that holds it, for the types that name it. -/
def qualifiedName : Value → String
  | datetime _ => "datetime.datetime"
  | date _ => "datetime.date"
  | time _ => "datetime.time"
  | duration _ => "datetime.timedelta"
  | decimal _ => "decimal.Decimal"
  | v => v.typeName

/-- Whether a value counts as given: not null, not false, not zero and not empty. -/
def isGiven : Value → Bool
  | null => false
  | bool b => b
  | int n => n != 0
  | float x => !x.isZero
  | text s => s != ""
  | bytes b => !b.isEmpty
  | list items | tuple items => !items.isEmpty
  | map members => !members.isEmpty
  | duration d => !d.isZero
  | decimal d => !d.isZero
  | _ => true

def isNull : Value → Bool
  | null => true
  | _ => false

/-- Exactly the flag `true`. -/
def isTrue : Value → Bool
  | bool b => b
  | _ => false

/-- The items of a list or a tuple. -/
def sequence? : Value → Option (List Value)
  | list items | tuple items => some items
  | _ => none

/-- What a value yields one after another: items, keys, characters, bytes, or fields with their
names. -/
def elements? : Value → Option (List Value)
  | list items | tuple items => some items
  | map members => some (members.map fun m => text m.1)
  | record _ fields => some (fields.map fun m => tuple [text m.1, m.2])
  | text s => some (s.toList.map fun c => text (String.ofList [c]))
  | bytes b => some (b.map fun x => int x.toNat)
  | _ => none

/-- The amount that a value is, if it is one. -/
def quantity? : Value → Option Quantity
  | int n => some (.whole n)
  | bool b => some (.flag b)
  | float x => some (.real x)
  | _ => none

def ofQuantity : Quantity → Value
  | .whole n => int n
  | .flag b => bool b
  | .real x => float x

end Value

end PagedSelect
