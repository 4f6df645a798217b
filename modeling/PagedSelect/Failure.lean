import PagedSelect.Rejection
import PagedSelect.Text.Utf8
import PagedSelect.Value.Whole
/-!
# Failures

All that can end an operation: a rejected request, settings that make no sense, numbers that cannot
be converted or written, names that cannot be resolved, rows that do not fit, and whatever a store
raises.  What a store raises is kept as it is.
-/

namespace PagedSelect

inductive Failure where
  | general (message : String)
  | rejected (r : Rejection)
  | emptyPlaceholder
  | negativeParameter
  | badPageBound
  | notIterable (typeName : String)
  | notWhole (fault : WholeFault)
  | tooLongToWrite
  | factorTooLarge
  | zeroLimit
  | quotientTooLarge
  | noTableName (entity : String)
  | notMapped (entity : String)
  | noSingleTable (entity : String)
  | noSession
  | twoSessions
  | storage (message : String)
  | rowMismatch (schema : String) (issues : List Issue)
  | missingColumn (name : String)
  | notUtf8 (bad : Text.BadBytes)
  | notSerialisable (typeName : String)
  | tooDeep
deriving Repr

namespace Failure

/-- Bytes that are no text: one by its value, several by their positions. -/
def badBytes (bad : Text.BadBytes) : String :=
  if bad.count = 1 then
    "byte 0x" ++ String.ofList (Text.hexDigits 2 bad.first.toNat) ++ " in position " ++ toString bad.position
  else
    "bytes in position " ++ toString bad.position ++ "-" ++ toString (bad.position + bad.count - 1)

def message : Failure → String
  | general message => message
  | rejected r => r.message
  | emptyPlaceholder => "placeholder prefix must not be empty"
  | negativeParameter => "next_param must not be negative"
  | badPageBound => "max_page_size must be positive"
  | notIterable typeName => "'" ++ typeName ++ "' object is not iterable"
  | notWhole fault => fault.message
  | tooLongToWrite =>
    "Exceeds the limit (" ++ toString Numeral.maxDigits
      ++ " digits) for integer string conversion; use sys.set_int_max_str_digits() to increase the limit"
  | factorTooLarge => "int too large to convert to float"
  | zeroLimit => "integer division or modulo by zero"
  | quotientTooLarge => "integer division result too large for a float"
  | noTableName entity =>
    "Cannot resolve a table name for " ++ entity ++ "; pass a table name or configure a table_resolver."
  | notMapped entity => entity ++ " is not a mapped class or Table"
  | noSingleTable entity => entity ++ " is not mapped to a single table"
  | noSession => "Must provide either 'session' or 'session_factory'."
  | twoSessions => "Cannot provide both 'session' and 'session_factory'."
  | storage message => message
  | rowMismatch schema issues =>
    toString issues.length ++ " validation errors for " ++ schema
  | missingColumn name => Text.quoted name
  | notUtf8 bad => "'utf-8' codec can't decode " ++ badBytes bad ++ ": invalid utf-8"
  | notSerialisable typeName => "Unable to serialize unknown type: <class '" ++ typeName ++ "'>"
  | tooDeep => "Maximum serialization depth exceeded"

end Failure

abbrev Outcome := Except Failure

def reject {α : Type} (r : Rejection) : Outcome α := .error (.rejected r)

/-- Passes if values can be shown in a message. -/
def checkWritable (values : List Value) : Outcome Unit :=
  if Value.allWritable values then .ok () else .error .tooLongToWrite

/-- Fails with a fault of a page, whose amounts have to be shown. -/
def rejectPage {α : Type} (fault : PageFault) : Outcome α := do
  checkWritable fault.shown
  reject (.badPage fault)

/-- The text that a value stands for, if it can be written. -/
def Value.written (v : Value) : Outcome String := do
  checkWritable [v]
  return v.plain

end PagedSelect
