/-!
# Keyed lists

Entries under distinct keys, in the order in which the keys were first put.  Putting under a key
that is present replaces the entry in its place; erasing forgets the place.
-/

namespace PagedSelect.Keyed

variable {α : Type}

def keys (entries : List (String × α)) : List String := entries.map (·.1)

def has (key : String) (entries : List (String × α)) : Bool := entries.any (·.1 == key)

def get? (key : String) : List (String × α) → Option α
  | [] => none
  | (k, a) :: r => if k == key then some a else get? key r

/-- Puts an entry in the place of its key, or at the end. -/
def put (key : String) (a : α) : List (String × α) → List (String × α)
  | [] => [(key, a)]
  | (k, b) :: r => if k == key then (k, a) :: r else (k, b) :: put key a r

def erase (key : String) (entries : List (String × α)) : List (String × α) :=
  entries.filter (·.1 != key)

/-- Puts entries one after another: each key keeps its first place and its last entry. -/
def ofList (entries : List (String × α)) : List (String × α) :=
  entries.foldl (fun acc e => put e.1 e.2 acc) []

end PagedSelect.Keyed
