import PagedSelect.Text.Camel
import PagedSelect.Value.Basic
/-!
# Writing members

How a member of a request is written: left out if it is missing, in camel case, and with the records inside
it as maps.  As for reading members, these are the rules of the library that validates requests and writes
them back; which members there are is decided with the request.
-/

namespace PagedSelect

/-- A member, left out if it is missing. -/
def wireMember {α : Type} (name : String) (f : α → Value) : Option α → Members
  | some a => [(name, f a)]
  | none => []

namespace Value

mutual

/-- A value with its records turned into maps without their nulls. -/
def opened : Value → Value
  | list items => list (openedItems items)
  | tuple items => tuple (openedItems items)
  | map members => map (openedMembers members)
  | record _ fields => map (openedFields fields)
  | v => v

def openedItems : List Value → List Value
  | [] => []
  | v :: r => v.opened :: openedItems r

def openedMembers : Members → Members
  | [] => []
  | (k, v) :: r => (k, v.opened) :: openedMembers r

/-- The fields of a record that are not null, opened, in camel case. -/
def openedFields : Members → Members
  | [] => []
  | (k, v) :: r =>
    if v.isNull then openedFields r else (Text.camel k, v.opened) :: openedFields r

end

def ofTexts (ss : List String) : Value := list (ss.map text)

end Value

end PagedSelect
