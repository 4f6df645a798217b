/-!
# Blank characters

Two classes: `isBlank` is the Unicode property `White_Space`; `isSpace` adds the four information
separators U+001C to U+001F.  Texts are trimmed and cut into words by the second class; number
texts are trimmed by the first.
-/

namespace PagedSelect.Text

/-- White space: the Unicode property `White_Space`. -/
def isBlank (c : Char) : Bool :=
  let n := c.toNat
  (0x9 ≤ n && n ≤ 0xD) || n == 0x20 || n == 0x85 || n == 0xA0 || n == 0x1680 ||
    (0x2000 ≤ n && n ≤ 0x200A) || n == 0x2028 || n == 0x2029 || n == 0x202F || n == 0x205F || n == 0x3000

/-- A character between words: white space or an information separator. -/
def isSpace (c : Char) : Bool :=
  isBlank c || (0x1C ≤ c.toNat && c.toNat ≤ 0x1F)

/-- `cs` without the characters of a class at its two ends. -/
def trimEnds (p : Char → Bool) (cs : List Char) : List Char :=
  ((cs.dropWhile p).reverse.dropWhile p).reverse

def trim (s : String) : String := String.ofList (trimEnds isSpace s.toList)

/-- A text of spaces only, such as the empty one. -/
def isVoid (s : String) : Bool := s.toList.all isSpace

/-- The words of a text: its longest runs without spaces. -/
def words (s : String) : List String :=
  ((s.toList.splitOnP isSpace).filter (· ≠ [])).map String.ofList

/-- The pieces of a text between commas, each as it stands. -/
def commaPieces (s : String) : List String := (s.toList.splitOn ',').map String.ofList

end PagedSelect.Text
