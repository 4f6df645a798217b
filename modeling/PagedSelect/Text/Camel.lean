/-!
# Camel case

Members on the wire are spelled in camel case: `nulls_first` is `nullsFirst` there.
-/

namespace PagedSelect.Text

/-- The characters of a name without underscores, the letter behind each of them a capital. -/
def camelChars : List Char → List Char
  | [] => []
  | '_' :: c :: r => c.toUpper :: camelChars r
  | c :: r => c :: camelChars r

def camel (name : String) : String := String.ofList (camelChars name.toList)

example : camel "nulls_first" = "nullsFirst" := by decide

end PagedSelect.Text
