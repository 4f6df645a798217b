import PagedSelect.Number.Numeral
import PagedSelect.Request.Issue
import PagedSelect.Text.Utf8
import PagedSelect.Value.Basic
/-!
# Reading members

How a value is read as a member of a request or a row.  Reading is generous: a flag counts as a
number, a numeral and a whole double are read as numbers, a word as a flag, and bytes as text.  All
issues of a value are reported, in the order of its members.

These are the rules of the library that validates requests and rows, in its lax mode, written out as far as
requests and rows need them.  What members there are, and of which kind, is decided elsewhere: by requests
(`QueryRequest.ofWire`), and by the schemas of rows.
-/

namespace PagedSelect

/-- What was read, or all that is wrong with it. -/
abbrev Reading (α : Type) := Except (List Issue) α

namespace Reading

variable {α β : Type}

/-- A reading without issues. -/
def done (a : α) : Reading α := .ok a

/-- A reading with one fault at its own place. -/
def fail (fault : Fault) : Reading α := .error [⟨[], fault⟩]

/-- A reading seen from one level further out. -/
def under (step : PathStep) (r : Reading α) : Reading α := r.mapError (·.map (Issue.under step))

/-- Two readings in one; the issues of both are reported. -/
def also (f : Reading (α → β)) (r : Reading α) : Reading β :=
  match f, r with
  | .ok f, .ok a => .ok (f a)
  | .ok _, .error e => .error e
  | .error d, .ok _ => .error d
  | .error d, .error e => .error (d ++ e)

/-! ## Scalars -/

/-- A numeral as a number. -/
def ofNumeral : Except Numeral.Fault Int → Reading Int
  | .ok n => done n
  | .error .malformed => fail .badNumeral
  | .error (.tooLong _) => fail .longNumeral

/-- A whole part within 64 bits. -/
def ofTruncated (isWhole : Bool) : Except Double.NotFinite Int → Reading Int
  | .error _ => fail .notFinite
  | .ok n =>
    if !isWhole then fail .fractional
    else if n.natAbs < Numeral.wordBound then done n
    else fail .longNumeral

def whole : Value → Reading Int
  | .int n => done n
  | .bool b => done (Quantity.ofFlag b)
  | .text s => ofNumeral (Numeral.ofWire s)
  | .bytes b =>
    match Text.ofUtf8 b with
    | .ok s => ofNumeral (Numeral.ofWire s)
    | .error _ => fail .badNumeral
  | .float x => ofTruncated x.isWhole x.truncate
  | .decimal d =>
    match d.truncate with
    | .error _ => fail .notFinite
    | .ok n => if d.isWhole then done n else fail .fractional
  | _ => fail .notInt

/-- The words for no and for yes. -/
def flagWords : List (String × Bool) :=
  [("0", false), ("off", false), ("f", false), ("false", false), ("n", false), ("no", false),
   ("1", true), ("on", true), ("t", true), ("true", true), ("y", true), ("yes", true)]

/-- A word as a flag, in any letter case. -/
def ofWord (s : String) : Reading Bool :=
  match Keyed.get? (String.ofList (s.toList.map Char.toLower)) flagWords with
  | some b => done b
  | none => fail .badFlag

def ofBit (n : Int) : Reading Bool :=
  if n = 0 then done false else if n = 1 then done true else fail .badFlag

def ofDouble (x : Double) : Reading Bool :=
  match ofTruncated x.isWhole x.truncate with
  | .ok n => ofBit n
  | .error _ => fail .notFlag

def flag : Value → Reading Bool
  | .bool b => done b
  | .text s => ofWord s
  | .bytes b =>
    match Text.ofUtf8 b with
    | .ok s => ofWord s
    | .error _ => fail .badFlag
  | .int n => if Numeral.fitsWord n then ofBit n else fail .notFlag
  | .float x => ofDouble x
  | .decimal d => ofDouble d.toDouble
  | _ => fail .notFlag

def text : Value → Reading String
  | .text s => done s
  | .bytes b =>
    match Text.ofUtf8 b with
    | .ok s => done s
    | .error _ => fail .notUnicode
  | _ => fail .notText

/-! ## Containers -/

def optional (read : Value → Reading α) : Value → Reading (Option α)
  | .null => done none
  | v => (read v).map some

/-- The items of a list whose first one has the index `i`. -/
def itemsFrom (read : Value → Reading α) (i : Nat) : List Value → Reading (List α)
  | [] => done []
  | v :: r => ((done List.cons).also ((read v).under (.index i))).also (itemsFrom read (i + 1) r)

def list (read : Value → Reading α) (v : Value) : Reading (List α) :=
  match v.sequence? with
  | some items => itemsFrom read 0 items
  | none => fail .notList

def members : Value → Reading Members
  | .map members => done members
  | _ => fail .notMap

/-- A map that is read as a record of the given name. -/
def record (name : String) (read : Members → Reading α) : Value → Reading α
  | .map members => read members
  | _ => fail (.notRecord name)

/-- The member under the first of its spellings that is present. -/
def member (members : Members) (spellings : List String) (absent : Reading α) (read : Value → Reading α) :
    Reading α :=
  match spellings.findSome? fun name => (Keyed.get? name members).map fun v => (name, v) with
  | some (name, v) => (read v).under (.key name)
  | none => absent

/-- A member that may be absent or null. -/
def maybe (members : Members) (spellings : List String) (read : Value → Reading α) : Reading (Option α) :=
  member members spellings (done none) (optional read)

/-- A member that has to be there. -/
def required (members : Members) (name : String) (read : Value → Reading α) : Reading α :=
  member members [name] (.error [⟨[.key name], .required⟩]) read

/-- The first of several ways to read a value that succeeds; if none does, the issues of all, each
under the name of its way. -/
def firstOf : List (String × Reading α) → Reading α
  | [] => .error []
  | (name, r) :: others =>
    match r.under (.key name) with
    | .ok a => .ok a
    | .error d => (firstOf others).mapError (d ++ ·)

end Reading

end PagedSelect
