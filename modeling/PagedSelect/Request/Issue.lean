import PagedSelect.Keyed
/-!
# Issues

An issue says what is wrong with one member of a request or a row, and where, in the words of the library
that validates both.  `Report.ofIssues` collects the messages of issues under their dotted paths: paths in
the order of their first issue, messages in order, none dropped.
-/

namespace PagedSelect

/-- One step of a path into a value. -/
inductive PathStep where
  | key (name : String)
  | index (i : Nat)
deriving DecidableEq, Repr

def PathStep.text : PathStep → String
  | key name => name
  | index i => toString i

inductive Fault where
  | required
  | notText
  | notUnicode
  | notInt
  | badNumeral
  | longNumeral
  | fractional
  | notFinite
  | notFlag
  | badFlag
  | notList
  | notMap
  | notRecord (schema : String)
  | notMoment
  | badDate (detail : String)
  | badMoment (detail : String)
deriving DecidableEq, Repr

namespace Fault

def code : Fault → String
  | required => "missing"
  | notText => "string_type"
  | notUnicode => "string_unicode"
  | notInt => "int_type"
  | badNumeral => "int_parsing"
  | longNumeral => "int_parsing_size"
  | fractional => "int_from_float"
  | notFinite => "finite_number"
  | notFlag => "bool_type"
  | badFlag => "bool_parsing"
  | notList => "list_type"
  | notMap => "dict_type"
  | notRecord _ => "model_type"
  | notMoment => "datetime_type"
  | badDate _ => "datetime_from_date_parsing"
  | badMoment _ => "datetime_parsing"

def message : Fault → String
  | required => "Field required"
  | notText => "Input should be a valid string"
  | notUnicode => "Input should be a valid string, unable to parse raw data as a unicode string"
  | notInt => "Input should be a valid integer"
  | badNumeral => "Input should be a valid integer, unable to parse string as an integer"
  | longNumeral => "Unable to parse input string as an integer, exceeded maximum size"
  | fractional => "Input should be a valid integer, got a number with a fractional part"
  | notFinite => "Input should be a finite number"
  | notFlag => "Input should be a valid boolean"
  | badFlag => "Input should be a valid boolean, unable to interpret input"
  | notList => "Input should be a valid list"
  | notMap => "Input should be a valid dictionary"
  | notRecord schema => "Input should be a valid dictionary or instance of " ++ schema
  | notMoment => "Input should be a valid datetime"
  | badDate detail => "Input should be a valid datetime or date, " ++ detail
  | badMoment detail => "Input should be a valid datetime, " ++ detail

end Fault

/-- A fault and the path to the member that has it. -/
structure Issue where
  path : List PathStep
  fault : Fault
deriving DecidableEq, Repr

namespace Issue

/-- The path that stands for the whole of a request. -/
def root : String := "__root__"

/-- The steps of a path with dots between them; the whole if there are none. -/
def dotted (i : Issue) : String :=
  let path := ".".intercalate (i.path.map PathStep.text)
  if path = "" then root else path

/-- An issue seen from one level further out. -/
def under (step : PathStep) (i : Issue) : Issue := ⟨step :: i.path, i.fault⟩

end Issue

/-- Messages under dotted paths. -/
abbrev Report := List (String × List String)

namespace Report

/-- Adds a message under a path. -/
def add (report : Report) (path message : String) : Report :=
  Keyed.put path ((Keyed.get? path report).getD [] ++ [message]) report

/-- The messages of issues under their paths. -/
def ofIssues (issues : List Issue) : Report :=
  issues.foldl (fun report i => report.add i.dotted i.fault.message) []

def ofText (message : String) : Report := [(Issue.root, [message])]

def messages (report : Report) : List String := report.flatMap (·.2)

end Report

end PagedSelect
