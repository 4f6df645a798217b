import PagedSelect.Number.Rounding
import PagedSelect.Text.Blank
import PagedSelect.Text.Digit
/-!
# Reading whole numbers

Two grammars.  `ofText` is the general one: blanks around, a sign, decimal digits of any script with
single underscores between them.  `ofWire` is the one for request members: ASCII digits, zeros in
front, and a fraction of zeros allowed.  Both refuse a number of more than 4300 digits.
-/

namespace PagedSelect.Numeral

/-- Why a text is no whole number. -/
inductive Fault where
  | malformed
  | tooLong (digits : Nat)
deriving DecidableEq, Repr

/-- The most digits that a number text may have. -/
def maxDigits : Nat := 4300

def wordBound : Nat := 9223372036854775808

def fitsWord (n : Int) : Bool := -(wordBound : Int) ≤ n && n < wordBound

/-- The digits of a run in which single underscores stand between digits. -/
def groupedDigits? (digit? : Char → Option Nat) (run : List Char) : Option (List Nat) :=
  let groups := run.splitOn '_'
  if groups.any (·.isEmpty) then none else groups.flatten.mapM digit?

/-- Reads a whole number, given what counts as a blank and as a digit. -/
def read (blank : Char → Bool) (digit? : Char → Option Nat) (cs : List Char) : Except Fault Int :=
  let (negative, cs) := Text.splitSign (cs.dropWhile blank)
  let inRun (c : Char) := (digit? c).isSome || c == '_'
  match groupedDigits? digit? (cs.takeWhile inRun) with
  | none => .error .malformed
  | some digits =>
    if maxDigits < digits.length then .error (.tooLong digits.length)
    else if (cs.dropWhile inRun).all blank then .ok (Number.signed negative (Text.ofDigits digits))
    else .error .malformed

/-- Reads a text: blanks and digits of every script. -/
def ofText (s : String) : Except Fault Int := read Text.isBlank Text.digitValue? s.toList

/-- Reads a byte string: ASCII blanks and digits. -/
def ofBytes (bytes : List UInt8) : Except Fault Int :=
  read (fun c => c.toNat < 0x80 && Text.isBlank c) Text.asciiDigit? (bytes.map fun b => Char.ofNat b.toNat)

/-! ## Request members -/

/-- A plain numeral: an optional minus sign, then zero or ASCII digits that do not start with zero. -/
def plain? (cs : List Char) : Option Int :=
  let (negative, ds) := match cs with
    | '-' :: r => (true, r)
    | r => (false, r)
  match ds with
  | [] => none
  | ['0'] => some 0
  | '0' :: _ => none
  | _ => (ds.mapM Text.asciiDigit?).map fun digits => Number.signed negative (Text.ofDigits digits)

/-- Behind a first zero: zeros and underscores are passed over up to a digit or a minus sign; before a
point, and at the end, the last character passed over stays. -/
def afterZero? (last : Char) : List Char → Option (List Char)
  | [] => some [last]
  | c :: r =>
    if c == '0' || c == '_' then afterZero? c r
    else if c == '.' then some (last :: c :: r)
    else if c == '-' || c.isDigit then some (c :: r)
    else none

/-- A numeral without the zeros in front of it. -/
def withoutZeros? : List Char → Option (List Char)
  | '0' :: r => afterZero? '0' r
  | c :: r => if c.isDigit then some (c :: r) else none
  | [] => none

/-- A numeral without a fraction of zeros. -/
def withoutFraction (cs : List Char) : List Char :=
  match cs.dropWhile (· != '.') with
  | '.' :: z :: r => if (z :: r).all (· == '0') then cs.takeWhile (· != '.') else cs
  | _ => cs

/-- A numeral without its underscores, none of which may be first, last or doubled. -/
def withoutUnderscores? (cs : List Char) : Option (List Char) :=
  let groups := cs.splitOn '_'
  if groups.any (·.isEmpty) then none else some groups.flatten

/-- The plain numeral that a request member may stand for: what is left without the blanks around it,
its sign and all that a numeral may carry besides its digits; a minus sign is put back in front. -/
def simplified? (cs : List Char) : Option (List Char) := do
  let (negative, cs) := Text.splitSign (Text.trimEnds Text.isBlank cs)
  let plain ← withoutUnderscores? (withoutFraction (← withoutZeros? cs))
  return if negative then '-' :: plain else plain

/-- The digits behind a sign, up to the first character that is none. -/
def leadingDigits (cs : List Char) : List Char := (Text.splitSign cs).2.takeWhile Char.isDigit

/-- Whether a text starts as a plain numeral of too many digits. -/
def startsTooLong (cs : List Char) : Bool :=
  let ds := leadingDigits cs
  cs.head? != some '+' && ds.head? != some '0' && maxDigits < ds.length

/-- Reads a request member. -/
def ofWire (s : String) : Except Fault Int :=
  let cs := s.toList
  if startsTooLong cs then .error (.tooLong (leadingDigits cs).length)
  else match plain? cs with
    | some n => .ok n
    | none =>
      match simplified? cs with
      | none => .error .malformed
      | some ds =>
        if maxDigits < (leadingDigits ds).length then .error .malformed
        else match plain? ds with
          | some n => .ok n
          | none => .error .malformed

example : (ofWire "-007.000").toOption = some (-7) := by decide
example : (ofWire "-_5").toOption = none := by decide

/-! ## Writing -/

/-- The digits of a number, unless there are too many to write. -/
def write? (n : Int) : Option String :=
  if maxDigits < (Nat.toDigits 10 n.natAbs).length then none else some (toString n)

end PagedSelect.Numeral
