import PagedSelect.Failure
/-!
# Identifiers

Names that may stand in the text of a statement: segments with single dots between them, each an
ASCII letter or underscore followed by ASCII letters, digits and underscores.  One line feed behind
such a name is let through.
-/

namespace PagedSelect.Identifier

def isStart (c : Char) : Bool := c.isAlpha || c == '_'

def isPart (c : Char) : Bool := isStart c || c.isDigit

/-- A segment: a start, then parts. -/
def isSegment : List Char → Bool
  | [] => false
  | c :: r => isStart c && r.all isPart

/-- Segments with single dots between them. -/
def isDotted (cs : List Char) : Bool := (cs.splitOn '.').all isSegment

/-- The names that are let through. -/
def accepts (s : String) : Bool :=
  isDotted s.toList || (s.toList.getLast? == some '\n' && isDotted s.toList.dropLast)

/-- Lets a name through, or refuses it as a field. -/
def check (name : String) : Outcome String :=
  if accepts name then .ok name else reject (.badField name none)

/-- Lets a value through if it is the text of a name. -/
def ofValue : Value → Outcome String
  | .text s => check s
  | v => do reject (.badField (← v.written) none)

end PagedSelect.Identifier
