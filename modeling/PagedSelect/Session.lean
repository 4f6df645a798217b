import PagedSelect.Row.Schema
import PagedSelect.Select.Text
import PagedSelect.Traced
/-!
# Sessions

A store over database sessions works on the one session of its caller, or opens a session of its own
for every call and closes it again, whether the call succeeds or not.
-/

namespace PagedSelect

/-- Where a store gets its sessions from. -/
inductive SessionSource where
  | callers
  | factory
deriving DecidableEq, Repr

/-- A source of sessions: exactly one has to be given. -/
def SessionSource.ofGiven (session factory : Bool) : Outcome SessionSource :=
  match session, factory with
  | true, true => .error .twoSessions
  | false, false => .error .noSession
  | true, false => .ok callers
  | false, true => .ok SessionSource.factory

/-- What happens around a statement. -/
inductive SessionEvent where
  | created
  | opened
  | executed (s : Statement)
  | closed
deriving Repr

/-- What a session gives for a statement. -/
inductive SessionCall where
  | rows (s : Statement) (reply : Outcome (List Row))
  | count (s : Statement) (reply : Outcome Value)
deriving Repr

inductive StoreAnswer where
  | rows (rs : List Row)
  | count (n : Int)
deriving Repr

namespace SessionSource

/-- Carries out what is done in a session. -/
def within {α : Type} (source : SessionSource) (inside : Traced SessionEvent α) : Traced SessionEvent α :=
  match source with
  | callers => inside
  | factory => inside.between [.created, .opened] [.closed]

/-- The number that a reply to a count stands for; an empty reply counts no rows. -/
def countOf (v : Value) : Outcome Int :=
  if v.isGiven then v.whole.mapError .notWhole else .ok 0

def fetchRows (source : SessionSource) (s : Statement) (reply : Outcome (List Row)) :
    Traced SessionEvent (List Row) :=
  source.within (.event (.executed s) reply)

/-- The count of a statement, read after the session is closed. -/
def fetchCount (source : SessionSource) (s : Statement) (reply : Outcome Value) : Traced SessionEvent Int := do
  let v ← source.within (.event (.executed s) reply)
  Traced.silent (countOf v)

def call (source : SessionSource) : SessionCall → Traced SessionEvent StoreAnswer
  | .rows s reply => .rows <$> source.fetchRows s reply
  | .count s reply => .count <$> source.fetchCount s reply

end SessionSource

/-- What happened over several calls, and what came of each. -/
structure SessionLog where
  events : List SessionEvent
  answers : List (Outcome StoreAnswer)

/-- Carries out calls one after another; a call that fails does not keep the next from being made. -/
def SessionSource.run (source : SessionSource) : List SessionCall → SessionLog
  | [] => ⟨[], []⟩
  | c :: r =>
    let done := source.call c
    let later := source.run r
    ⟨done.events ++ later.events, done.outcome :: later.answers⟩

end PagedSelect
