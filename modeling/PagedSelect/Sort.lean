import PagedSelect.Select.Build
import PagedSelect.Whitelist
/-!
# Sort

The order of rows may be asked for in several notations: a map of fields to directions, a list of
objects and of tokens (`name` or `-name`), or tokens with commas between them.  `SortField.resolve` reads
any of them as a list of fields with directions.  What names no field is passed over, or rejected in
strict mode; tokens with commas between them may be void in either mode.
-/

namespace PagedSelect

/-- A field to sort by; `nullsFirst` is kept as it was given and has no effect on the statement. -/
structure SortField where
  field : String
  direction : Direction
  nullsFirst : Value := .null
deriving Repr

namespace SortField

/-- The field of a token; a minus in front asks for the descending direction. -/
def ofToken? (token : String) : Option SortField :=
  match Text.trimEnds Text.isSpace token.toList with
  | [] => none
  | '-' :: r =>
    match Text.trimEnds Text.isSpace r with
    | [] => none
    | name => some ⟨String.ofList name, .descending, .null⟩
  | name => some ⟨String.ofList name, .ascending, .null⟩

/-- The field of an object with the members `field`, `direction` and `nulls_first` or `nullsFirst`. -/
def ofMembers (members : Members) : Outcome (Option SortField) :=
  match Keyed.get? "field" members with
  | none => .ok none
  | some field =>
    if field.isGiven then do
      return some {
        field := ← field.written
        direction := Direction.ofValue ((Keyed.get? "direction" members).getD .null)
        nullsFirst := ((Keyed.get? "nulls_first" members).or (Keyed.get? "nullsFirst" members)).getD .null }
    else .ok none

def ofItem : Value → Outcome (Option SortField)
  | .text token => .ok (ofToken? token)
  | .map members | .record _ members => ofMembers members
  | _ => .ok none

/-- Passes over an item without a field, or rejects it in strict mode; the message is made up in either
mode. -/
def skipItem (strict : Bool) (item : Value) : Outcome Unit := do
  checkWritable [item]
  if strict then reject (.malformed (.sortItem item))

def ofItems (strict : Bool) : List Value → Outcome (List SortField)
  | [] => .ok []
  | item :: r => do
    match ← ofItem item with
    | some f => return f :: (← ofItems strict r)
    | none =>
      skipItem strict item
      ofItems strict r

/-- The fields that a sort value asks for, in order. -/
def resolve (strict : Bool) (raw : Value) : Outcome (List SortField) :=
  if !raw.isGiven then .ok []
  else match raw with
    | .map members => .ok (members.map fun m => ⟨m.1, Direction.ofValue m.2, .null⟩)
    | .text tokens => .ok ((Text.commaPieces tokens).filterMap ofToken?)
    | .list items | .tuple items => ofItems strict items
    | _ => if strict then reject (.malformed (.sortType raw.typeName)) else .ok []

/-- Adds fields to the order of a query, asking the whitelist for each before it is added. -/
def applyFields (w : Option Whitelist) (q : SelectQuery) (fields : List SortField) : Outcome SelectQuery :=
  fields.foldlM (fun q f => do
    permitted w (·.sort f.field)
    q.orderBy f.field f.direction) q

def apply (strict : Bool) (w : Option Whitelist) (q : SelectQuery) (raw : Value) : Outcome SelectQuery := do
  applyFields w q (← resolve strict raw)

end SortField

end PagedSelect
