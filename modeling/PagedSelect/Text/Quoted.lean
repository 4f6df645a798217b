import PagedSelect.Text.Printable
/-!
# Quoted texts

A text or a byte string as messages quote it: between apostrophes, or between double quotes if it
holds an apostrophe and no double quote.  The quote mark and the backslash are escaped, so are line
feed, carriage return and tab; what has no visible form is written in hexadecimal, in the shortest
of three lengths.
-/

namespace PagedSelect.Text

def hexDigit (n : Nat) : Char :=
  if n < 10 then Char.ofNat (0x30 + n) else Char.ofNat (0x57 + n)

/-- The last `width` hexadecimal digits of a number. -/
def hexDigits : Nat → Nat → List Char
  | 0, _ => []
  | width + 1, n => hexDigits width (n / 16) ++ [hexDigit (n % 16)]

/-- The quote mark for a text: an apostrophe, unless only the text holds one itself and no double quote. -/
def quoteMark (cs : List Char) : Char :=
  if cs.contains '\x27' && !cs.contains '\x22' then '\x22' else '\x27'

/-- A character inside a quoted text, by its code point. -/
def escapeCode (n : Nat) : List Char :=
  if n < 0x100 then '\\' :: 'x' :: hexDigits 2 n
  else if n < 0x10000 then '\\' :: 'u' :: hexDigits 4 n
  else '\\' :: 'U' :: hexDigits 8 n

/-- A character inside a text that `mark` quotes. -/
def escape (mark c : Char) : List Char :=
  if c == mark || c == '\\' then ['\\', c]
  else match c with
    | '\n' => ['\\', 'n']
    | '\r' => ['\\', 'r']
    | '\t' => ['\\', 't']
    | _ => if isPrintable c then [c] else escapeCode c.toNat

def quoted (s : String) : String :=
  let mark := quoteMark s.toList
  String.ofList (mark :: s.toList.flatMap (escape mark) ++ [mark])

/-- A byte string in quotes, behind the letter that marks it; its bytes print as ASCII. -/
def quotedBytes (bytes : List UInt8) : String :=
  let cs := bytes.map fun b => Char.ofNat b.toNat
  let mark := quoteMark cs
  let inside (c : Char) := if c.toNat < 0x80 then escape mark c else escapeCode c.toNat
  String.ofList ('b' :: mark :: cs.flatMap inside ++ [mark])

end PagedSelect.Text
