import PagedSelect.Text.Capital
import PagedSelect.Value.Basic
/-!
# Select queries

A `SelectQuery` is a `SELECT` statement under construction: one table, a projection, predicates
joined by `AND`, order terms, a limit and an offset.  Values are never part of a predicate: a
predicate holds the number of its parameter, and the value stands in `bindings` under the name of
that parameter.
-/

namespace PagedSelect

/-- How a column is compared with a parameter. -/
inductive Comparison where
  | notEqual
  | less
  | lessEqual
  | unequal
  | equal
  | greater
  | greaterEqual
  | like
  | notLike
deriving DecidableEq, Repr

namespace Comparison

def symbol : Comparison → String
  | notEqual => "!="
  | less => "<"
  | lessEqual => "<="
  | unequal => "<>"
  | equal => "="
  | greater => ">"
  | greaterEqual => ">="
  | like => "LIKE"
  | notLike => "NOT LIKE"

/-- All comparisons, in the order of their symbols. -/
def all : List Comparison :=
  [notEqual, less, lessEqual, unequal, equal, greater, greaterEqual, like, notLike]

/-- The comparison that a text writes, in any letter case and with any spaces around its words. -/
def ofText? (s : String) : Option Comparison :=
  let canonical := Text.capitals (" ".intercalate (Text.words s))
  all.find? fun c => c.symbol == canonical

end Comparison

inductive Direction where
  | ascending
  | descending
deriving DecidableEq, Repr

namespace Direction

def keyword : Direction → String
  | ascending => "ASC"
  | descending => "DESC"

/-- Descending for the text `DESC` in any letter case and with any spaces around; otherwise ascending. -/
def ofValue : Value → Direction
  | .text s => if Text.capitals (Text.trim s) = "DESC" then descending else ascending
  | _ => ascending

end Direction

/-- What a statement selects: columns, or the number of rows. -/
inductive Projection where
  | columns (names : List String)
  | count (label : String)
deriving DecidableEq, Repr

/-- A condition on the rows; `given` is a condition in the words of the caller. -/
inductive Predicate where
  | comparison (field : String) (op : Comparison) (param : Nat)
  | membership (field : String) (params : List Nat)
  | range (field : String) (low high : Nat)
  | missing (field : String)
  | present (field : String)
  | anyLike (fields : List String) (param : Nat)
  | given (text : String)
deriving DecidableEq, Repr

/-- One key of the order of rows; `given` is a key in the words of the caller. -/
inductive OrderTerm where
  | column (field : String) (direction : Direction)
  | given (text : String)
deriving DecidableEq, Repr

/-- A `SELECT` statement under construction. -/
structure SelectQuery where
  table : String
  placeholder : String
  projection : Projection
  predicates : List Predicate
  ordering : List OrderTerm
  limit : Option Quantity
  offset : Option Quantity
  bindings : Members
  nextParam : Nat
deriving Repr

/-- The name of a parameter: its number behind a `p`.  A number with more digits than `Numeral.write?` writes is
in no name; queries come to such numbers only from a first parameter that a caller has chosen. -/
def paramName (n : Nat) : String := "p" ++ toString n

end PagedSelect
