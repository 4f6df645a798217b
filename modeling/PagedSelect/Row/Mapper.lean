import PagedSelect.Entity
/-!
# Row mappers

What a caller gets for a row of a store: the row as a map, a record of a schema, one column, or what a
function of the caller makes of it.
-/

namespace PagedSelect

/-- What becomes of a row. -/
inductive RowMapper where
  | asMap
  | record (schema : RowSchema)
  | column (name : String)
  | function (f : Row → Outcome Value)

namespace RowMapper

/-- The mapper for the rows of an entity: records of its schema if it has one. -/
def forEntity (e : Entity) : RowMapper :=
  match e.schema? with
  | some schema => record schema
  | none => asMap

def apply : RowMapper → Row → Outcome Value
  | asMap, row => .ok (.map row)
  | record schema, row => schema.validate row
  | column name, row =>
    match Keyed.get? name row with
    | some v => .ok v
    | none => .error (.missingColumn name)
  | function f, row => f row

end RowMapper

end PagedSelect
