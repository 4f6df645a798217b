import PagedSelect.Failure
import PagedSelect.Text.Camel
/-!
# Values on the wire

What a result may hold when it is sent: null, flags, numbers, texts, lists and maps.  Calendar
values, decimals and identifiers become texts, bytes the text that they write, and records maps.
Doubles stay as they are.  These are the rules of the library that writes results.

A record that is sent by itself keeps the names of its fields; inside another value they are spelled
in camel case.  Values may be nested so far only: a list or a map takes one level around its members,
a record three around its fields, a plain value one, and any other value without members two.  A
record of plain fields that exhausts the levels is sent as it is.
-/

namespace PagedSelect.Value

/-- How many levels a value may have. -/
def maxLevels : Nat := 255

/-- A null, a flag, a whole number or a text. -/
def isPlain : Value → Bool
  | null | bool _ | int _ | text _ => true
  | _ => false

def wireLeaf : Value → Outcome Value
  | bytes b => ((Text.ofUtf8 b).map text).mapError .notUtf8
  | datetime m => .ok (text m.wireText)
  | date d => .ok (text d.text)
  | time t => .ok (text t.wireText)
  | duration d => .ok (text d.wireText)
  | decimal d => .ok (text d.text)
  | uuid n => .ok (text (uuidText n))
  | schema name => .error (.notSerialisable (schema name).typeName)
  | entity attributes => .error (.notSerialisable ("__main__." ++ (entity attributes).typeName))
  | v => .ok v

mutual

/-- A value on the wire, with so many levels left. -/
def wireFrom : Nat → Value → Outcome Value
  | 0, _ => .error .tooDeep
  | levels + 1, v =>
    match v, levels with
    | list items, levels | tuple items, levels => (wireItems levels items).map list
    | map members, levels => (wireMembers id levels members).map map
    | record _ fields, levels + 4 => (wireMembers Text.camel (levels + 2) fields).map map
    | record name fields, 3 =>
      if fields.all (fun m => m.2.isPlain) then .ok (record name fields) else .error .tooDeep
    | record .., _ => .error .tooDeep
    | v, 0 => if v.isPlain then .ok v else .error .tooDeep
    | v, _ + 1 => wireLeaf v

def wireItems (levels : Nat) : List Value → Outcome (List Value)
  | [] => .ok []
  | v :: r => do return (← wireFrom levels v) :: (← wireItems levels r)

/-- The members of a map on the wire, their names in the given spelling. -/
def wireMembers (spelling : String → String) (levels : Nat) : Members → Outcome Members
  | [] => .ok []
  | (k, v) :: r => do return (spelling k, ← wireFrom levels v) :: (← wireMembers spelling levels r)

end

/-- A value on the wire, sent by itself. -/
def wire : Value → Outcome Value
  | record _ fields => (wireMembers id maxLevels fields).map map
  | v => wireFrom maxLevels v

end PagedSelect.Value
