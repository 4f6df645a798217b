import PagedSelect.Failure
import PagedSelect.Row.Moment
/-!
# Row schemas

A schema names the fields of a row and says of which kind each is; how a kind is read is said in `Reading`.
A row that fits becomes a record of the schema; columns that the schema does not name are passed over.
-/

namespace PagedSelect

abbrev Row := Members

inductive FieldKind where
  | whole
  | text
  | moment
  | list (item : FieldKind)
  | optional (kind : FieldKind)
deriving DecidableEq, Repr

def FieldKind.read : FieldKind → Value → Reading Value
  | whole, v => (Reading.whole v).map .int
  | text, v => (Reading.text v).map .text
  | moment, v => (Reading.moment v).map .datetime
  | list item, v => (Reading.list item.read v).map .list
  | optional kind, v => if v.isNull then .done .null else kind.read v

/-- A field; without a default it has to be there. -/
structure FieldSpec where
  name : String
  kind : FieldKind
  default : Option Value := none
deriving Repr

structure RowSchema where
  name : String
  fields : List FieldSpec
deriving Repr

namespace RowSchema

def readField (row : Row) (f : FieldSpec) : Reading (String × Value) :=
  (match f.default with
    | some v => Reading.member row [f.name] (.done v) f.kind.read
    | none => Reading.required row f.name f.kind.read).map fun v => (f.name, v)

/-- Reads the fields of a row, reporting the issues of all. -/
def readFields (row : Row) : List FieldSpec → Reading Members
  | [] => .done []
  | f :: r => ((Reading.done List.cons).also (readField row f)).also (readFields row r)

/-- The record that a row is under a schema. -/
def validate (s : RowSchema) (row : Row) : Outcome Value :=
  match readFields row s.fields with
  | .ok fields => .ok (.record s.name fields)
  | .error issues => .error (.rowMismatch s.name issues)

end RowSchema

end PagedSelect
