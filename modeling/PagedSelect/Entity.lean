import PagedSelect.Row.Schema
import PagedSelect.Value.Text
/-!
# Entities and their tables

A query is asked of an entity: the name of a table, an object that carries one, a row schema, or
something that a catalogue maps to a table.  A `TableResolver` finds the name of the table.
-/

namespace PagedSelect

structure TableName where
  name : String
  schema : Option String := none
deriving DecidableEq, Repr

def TableName.text (t : TableName) : String :=
  match t.schema with
  | some schema => schema ++ "." ++ t.name
  | none => t.name

/-- What a query may be asked of.  `mapped` and `unmapped` are objects that a catalogue knows or does
not know, by how they are written; a mapped one may have no table of its own. -/
inductive Entity where
  | value (v : Value)
  | rows (schema : RowSchema)
  | table (t : TableName)
  | mapped (spelling : String) (table : Option TableName)
  | unmapped (spelling : String)
deriving Repr

namespace Entity

/-- How an entity is written in messages, if it can be. -/
def spelling : Entity → Outcome String
  | value v => do
    checkWritable [v]
    return v.literal
  | rows schema => .ok ("<class '__main__." ++ schema.name ++ "'>")
  | table t => .ok t.text
  | mapped spelling _ | unmapped spelling => .ok spelling

def refuseName (e : Entity) : Outcome String := do .error (.noTableName (← e.spelling))

def schema? : Entity → Option RowSchema
  | rows schema => some schema
  | _ => none

def tableAttribute : String := "__tablename__"

/-- The table that an entity names: itself, or by its attribute if that is a text that is not empty. -/
def namedTable (e : Entity) : Outcome String :=
  match e with
  | value (.text name) => .ok name
  | value (.entity attributes) =>
    match Keyed.get? tableAttribute attributes with
    | some (.text name) => if name = "" then e.refuseName else .ok name
    | _ => e.refuseName
  | _ => e.refuseName

/-- The table that a catalogue has for an entity: a name stands for itself. -/
def catalogueTable (e : Entity) : Outcome String :=
  match e with
  | value (.text name) => .ok name
  | table t | mapped _ (some t) => .ok t.text
  | mapped spelling none => .error (.noSingleTable spelling)
  | _ => do .error (.notMapped (← e.spelling))

end Entity

/-- How the table of an entity is found. -/
inductive TableResolver where
  | named
  | catalogue
  | always (table : String)
deriving DecidableEq, Repr

def TableResolver.resolve : TableResolver → Entity → Outcome String
  | named, e => e.namedTable
  | catalogue, e => e.catalogueTable
  | always table, _ => .ok table

end PagedSelect
