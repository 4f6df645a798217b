import PagedSelect.Number.Numeral
import PagedSelect.Value.Text
/-!
# Values as whole numbers

Reading any value as a whole number, as the count of a store is read: numbers lose their fraction,
texts and byte strings are read as numerals, a unique identifier is its number, and all else has no
whole number.
-/

namespace PagedSelect

/-- Why a value has no whole number. -/
inductive WholeFault where
  | notNumeric (typeName : String)
  | badNumeral (literal : String)
  | longNumeral (digits : Nat)
  | nan (spelling : String)
  | infinite (spelling : String)
deriving DecidableEq, Repr

namespace WholeFault

def message : WholeFault → String
  | notNumeric typeName =>
    "int() argument must be a string, a bytes-like object or a real number, not '" ++ typeName ++ "'"
  | badNumeral literal =>
    "invalid literal for int() with base 10: " ++ String.ofList (literal.toList.take 200)
  | longNumeral digits =>
    "Exceeds the limit (" ++ toString Numeral.maxDigits ++ " digits) for integer string conversion: value has "
      ++ toString digits ++ " digits; use sys.set_int_max_str_digits() to increase the limit"
  | nan spelling | infinite spelling => "cannot convert " ++ spelling ++ " to integer"

/-- A number that is not finite, in the words for its kind. -/
def ofNotFinite (nanSpelling infinitySpelling : String) : Double.NotFinite → WholeFault
  | .nan => nan nanSpelling
  | .infinity => infinite infinitySpelling

/-- A text that is no numeral, quoted as `literal`. -/
def ofNumeral (literal : String) : Numeral.Fault → WholeFault
  | .malformed => badNumeral literal
  | .tooLong digits => longNumeral digits

def ofDouble : Double.NotFinite → WholeFault := ofNotFinite "float NaN" "float infinity"

end WholeFault

namespace Value

def whole : Value → Except WholeFault Int
  | int n => .ok n
  | bool b => .ok (Quantity.ofFlag b)
  | float x => x.truncate.mapError WholeFault.ofDouble
  | decimal d => d.truncate.mapError (WholeFault.ofNotFinite "NaN" "Infinity")
  | text s => (Numeral.ofText s).mapError (WholeFault.ofNumeral (Text.quoted s))
  | bytes b => (Numeral.ofBytes b).mapError (WholeFault.ofNumeral (Text.quotedBytes b))
  | uuid n => .ok n
  | v => .error (.notNumeric v.qualifiedName)

end Value

end PagedSelect
