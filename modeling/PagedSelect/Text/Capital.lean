/-!
# Capitals

Keywords are recognised in any letter case.  They are ASCII words, so `capital` gives the capitals
of the characters whose capitals are ASCII letters (the ASCII letters, and a few letters and
ligatures beside them) and leaves every other character as it is.
-/

namespace PagedSelect.Text

/-- The capital letters of a character, where they are ASCII. -/
def capital (c : Char) : List Char :=
  match c.toNat with
  | 0xDF => ['S', 'S']
  | 0x131 => ['I']
  | 0x17F => ['S']
  | 0xFB00 => ['F', 'F']
  | 0xFB01 => ['F', 'I']
  | 0xFB02 => ['F', 'L']
  | 0xFB03 => ['F', 'F', 'I']
  | 0xFB04 => ['F', 'F', 'L']
  | 0xFB05 => ['S', 'T']
  | 0xFB06 => ['S', 'T']
  | _ => [c.toUpper]

/-- A text in capitals, as far as they are ASCII. -/
def capitals (s : String) : String := String.ofList (s.toList.flatMap capital)

example : capitals "l\u0131ke" = "LIKE" := by decide

end PagedSelect.Text
