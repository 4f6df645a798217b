/-!
# UTF-8

Reading bytes as UTF-8.  A failure names the first bytes that are part of no character: a byte that
begins none, or a sequence that breaks off, as far as it could have become a character.
-/

namespace PagedSelect.Text

/-- Where reading stopped: the first byte that was not read, its position, and the number of bytes
that belong to it. -/
structure BadBytes where
  first : UInt8
  position : Nat
  count : Nat
deriving DecidableEq, Repr

/-- What the first byte of a character says: its share of the code point, how many bytes follow, and
the range of the next one, which keeps out overlong forms, surrogates and code points past the last. -/
structure Lead where
  payload : Nat
  tails : Nat
  low : Nat
  high : Nat
deriving DecidableEq, Repr

/-- The role of a byte as the first one of a character. -/
def lead? (b : UInt8) : Option Lead :=
  let n := b.toNat
  if n < 0x80 then some ⟨n, 0, 0x80, 0xBF⟩
  else if n < 0xC2 then none
  else if n < 0xE0 then some ⟨n - 0xC0, 1, 0x80, 0xBF⟩
  else if n < 0xF0 then
    some ⟨n - 0xE0, 2, if n = 0xE0 then 0xA0 else 0x80, if n = 0xED then 0x9F else 0xBF⟩
  else if n < 0xF5 then
    some ⟨n - 0xF0, 3, if n = 0xF0 then 0x90 else 0x80, if n = 0xF4 then 0x8F else 0xBF⟩
  else none

def isTail (b : UInt8) : Bool := 0x80 ≤ b.toNat && b.toNat ≤ 0xBF

/-- The bytes that continue a character, at most as many as it has. -/
def Lead.tailsIn (l : Lead) : List UInt8 → List UInt8
  | [] => []
  | b :: r =>
    if l.low ≤ b.toNat && b.toNat ≤ l.high then (b :: r.takeWhile isTail).take l.tails else []

/-- The character with these continuing bytes. -/
def Lead.scalar (l : Lead) (tails : List UInt8) : Char :=
  Char.ofNat (tails.foldl (fun n b => n * 64 + (b.toNat - 0x80)) l.payload)

/-- The characters from `position` on, with `fuel` no less than the number of bytes left. -/
def decodeFrom : Nat → Nat → List UInt8 → Except BadBytes (List Char)
  | _, _, [] => .ok []
  | 0, position, b :: _ => .error ⟨b, position, 1⟩
  | fuel + 1, position, b :: r =>
    match lead? b with
    | none => .error ⟨b, position, 1⟩
    | some l => do
      let tails := l.tailsIn r
      if tails.length < l.tails then throw ⟨b, position, 1 + tails.length⟩
      let rest ← decodeFrom fuel (position + 1 + tails.length) (r.drop tails.length)
      return l.scalar tails :: rest

/-- The text that a byte string writes. -/
def ofUtf8 (bytes : List UInt8) : Except BadBytes String :=
  (decodeFrom bytes.length 0 bytes).map String.ofList

example : ofUtf8 [0x61, 0xC3, 0xA9] = .ok "a\u00e9" := rfl
example : ofUtf8 [0x61, 0xC3] = .error ⟨0xC3, 1, 1⟩ := rfl
example : ofUtf8 [0xF0, 0x9F, 0x98, 0x61] = .error ⟨0xF0, 0, 3⟩ := rfl
example : ofUtf8 [0xED, 0xA0, 0xBD] = .error ⟨0xED, 0, 1⟩ := rfl

end PagedSelect.Text
