import PagedSelect.Failure
/-!
# Whitelists

What a caller may do with which field.  A missing whitelist permits everything; an empty one
permits nothing.
-/

namespace PagedSelect

/-- The permitted uses of fields; `filterable` lists the operators for each field. -/
structure Whitelist where
  filterable : List (String × List String) := []
  sortable : List String := []
  projectable : List String := []
  searchable : List String := []
deriving DecidableEq, Repr

namespace Whitelist

def require (permitted : Bool) (field : String) (use : Use) : Outcome Unit :=
  if permitted then .ok () else reject (.notAllowed field use)

def filter (w : Whitelist) (field operator : String) : Outcome Unit :=
  match Keyed.get? field w.filterable with
  | none => reject (.notAllowed field .filter)
  | some operators => require (operators.contains operator) field (.operator operator)

def sort (w : Whitelist) (field : String) : Outcome Unit := require (w.sortable.contains field) field .sort

def project (w : Whitelist) (field : String) : Outcome Unit :=
  require (w.projectable.contains field) field .project

def search (w : Whitelist) (field : String) : Outcome Unit :=
  require (w.searchable.contains field) field .search

end Whitelist

/-- Asks a whitelist, if there is one. -/
def permitted (w : Option Whitelist) (ask : Whitelist → Outcome Unit) : Outcome Unit :=
  match w with
  | none => .ok ()
  | some w => ask w

end PagedSelect
