import PagedSelect.Request.Issue
import PagedSelect.Text.Similar
import PagedSelect.Value.Text
/-!
# Rejections

A request is rejected for a cause.  Every cause reports messages under paths (`Rejection.report`);
the text of a rejection is its message if there is exactly one, and the whole report otherwise.
-/

namespace PagedSelect

/-- Why a condition cannot use its value. -/
inductive ConditionFault where
  | notFlag (value : Value)
  | notList (typeName : String)
  | emptyList
  | notPair
  | noPattern
  | other (message : String)
deriving Repr

/-- The message of a fault. -/
def ConditionFault.message : ConditionFault → String
  | notFlag value => "'isNull' expects a boolean, got " ++ value.literal
  | notList typeName => "'in' expects a list, got " ++ typeName
  | emptyList => "'in' expects a non-empty list"
  | notPair => "'between' expects a list of exactly two values"
  | noPattern => "'like' expects a pattern"
  | other message => message

/-- Which use of a field a whitelist refuses. -/
inductive Use where
  | filter
  | operator (name : String)
  | sort
  | project
  | search
deriving DecidableEq, Repr

/-- The message for a refused use of a field. -/
def Use.refusal (field : String) : Use → String
  | filter => "Field " ++ Text.quoted field ++ " is not filterable"
  | operator name => "Operator " ++ Text.quoted name ++ " not allowed for field " ++ Text.quoted field
  | sort => "Field " ++ Text.quoted field ++ " is not sortable"
  | project => "Field " ++ Text.quoted field ++ " is not projectable"
  | search => "Field " ++ Text.quoted field ++ " is not searchable"

/-- Why a limit, an offset or a page is refused. -/
inductive PageFault where
  | limit (n : Quantity)
  | offset (n : Quantity)
  | requestedLimit (n : Int)
  | requestedOffset (n : Int)
  | requestedPage (page size : Int)
  | incomplete
  | listed (report : Report)
deriving Repr

/-- The amounts that the message of a fault shows. -/
def PageFault.shown : PageFault → List Value
  | limit n | offset n => [.ofQuantity n]
  | requestedLimit n | requestedOffset n => [.int n]
  | requestedPage page size => [.int page, .int size]
  | incomplete | listed _ => []

/-- The report of a fault. -/
def PageFault.report : PageFault → Report
  | limit n => [("limit", ["limit must be positive, got " ++ (Value.ofQuantity n).literal])]
  | offset n => [("offset", ["offset must not be negative, got " ++ (Value.ofQuantity n).literal])]
  | requestedLimit n => [("pagination", ["limit must be positive, got " ++ toString n])]
  | requestedOffset n => [("pagination", ["offset must not be negative, got " ++ toString n])]
  | requestedPage page size =>
    [("pagination", ["page and pageSize must be positive, got page=" ++ toString page ++ ", pageSize="
      ++ toString size])]
  | incomplete => [("pagination", ["page and pageSize must be given together"])]
  | listed report => report

/-- Why a request has no meaning. -/
inductive RequestFault where
  | notMap (typeName : String)
  | operatorCount (field : String) (count : Nat)
  | searchTarget
  | sortType (typeName : String)
  | sortItem (item : Value)
  | listed (report : Report)
deriving Repr

/-- The report of a fault. -/
def RequestFault.report : RequestFault → Report
  | notMap typeName => .ofText ("Query request must be an object, got " ++ typeName)
  | operatorCount field count =>
    [(field, ["Condition must name exactly one operator, got " ++ toString count])]
  | searchTarget => [("search", ["Search needs either 'field' or 'fields'"])]
  | sortType typeName => [("sort", ["Unsupported sort value: " ++ typeName])]
  | sortItem item => [("sort", ["Sort item without a field: " ++ item.literal])]
  | listed report => report

/-- Why a request is rejected. -/
inductive Rejection where
  | general (report : Report)
  | malformed (fault : RequestFault)
  | unknownOperator (operator : String) (known : List String) (field : Option String)
  | badValue (field : String) (fault : ConditionFault)
  | badPage (fault : PageFault)
  | badField (field : String) (detail : Option String)
  | notAllowed (field : String) (use : Use)
  | notAllowedFor (field : String) (detail : Option String)
deriving Repr

namespace Rejection

/-- Names in the order of their code points. -/
def sorted (names : List String) : List String := names.mergeSort fun a b => a ≤ b

/-- A text that may be missing or empty. -/
def given? (s : Option String) : Option String := s.filter (· ≠ "")

/-- The message for a field that is no identifier, unless another is given. -/
def fieldMessage (field : String) (detail : Option String) : String :=
  (given? detail).getD ("Invalid identifier: " ++ Text.quoted field)

/-- The message for an unknown operator: where it stands, what may be meant, what there is. -/
def operatorMessage (operator : String) (known : List String) (field : Option String) : String :=
  let place := match given? field with
    | some f => " on field '" ++ f ++ "'"
    | none => ""
  let hints := match Text.suggestions operator known with
    | [] => ""
    | close => " Did you mean: " ++ ", ".intercalate close ++ "?"
  "Unknown operator: '" ++ operator ++ "'" ++ place ++ "." ++ hints ++ " Valid operators: "
    ++ ", ".intercalate (sorted known)

/-- The messages of a rejection under their paths. -/
def report : Rejection → Report
  | general report => report
  | malformed fault => fault.report
  | unknownOperator operator known field =>
    [((given? field).getD Issue.root, [operatorMessage operator known field])]
  | badValue field fault => [(field, [fault.message])]
  | badPage fault => fault.report
  | badField field detail => [(field, [fieldMessage field detail])]
  | notAllowed field use => [(field, [use.refusal field])]
  | notAllowedFor field detail => [(field, [fieldMessage field detail])]

/-- A report as a value. -/
def reportValue (report : Report) : Value :=
  .map (report.map fun (path, messages) => (path, .list (messages.map .text)))

/-- The text of a rejection. -/
def message (r : Rejection) : String :=
  match r.report.messages with
  | [message] => message
  | _ => (reportValue r.report).literal

/-- The field that a rejection names, for the causes that concern one field. -/
def field? : Rejection → Option (Option String)
  | unknownOperator _ _ field => some field
  | badValue field _ | badField field _ | notAllowed field _ | notAllowedFor field _ => some (some field)
  | _ => none

end Rejection

end PagedSelect
