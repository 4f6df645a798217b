import PagedSelect.Proofs.Outcome
import PagedSelect.Session
/-!
# Sessions over a run of calls

A store that opens its own sessions has one open at a time and closes each of them once, however the calls
end.  A store on its caller's session neither opens nor closes one.  Either hands on what a session raises.
-/

namespace PagedSelect

/-! ## Traces with sessions -/

/-- How far the session of a store is. -/
inductive SessionPhase where
  | idle
  | created
  | opened

namespace SessionPhase

/-- The phase behind an event, if the event may come in this phase. -/
def next : SessionPhase → SessionEvent → Option SessionPhase
  | idle, .created => some created
  | created, .opened => some opened
  | opened, .executed _ => some opened
  | opened, .closed => some idle
  | _, _ => none

/-- The phase behind a trace, if every event comes in its turn. -/
def replay (phase : SessionPhase) (events : List SessionEvent) : Option SessionPhase := events.foldlM next phase

/-- The number of sessions that are open. -/
def sessions : SessionPhase → Nat
  | opened => 1
  | _ => 0

end SessionPhase

def SessionEvent.isOpened : SessionEvent → Bool
  | opened => true
  | _ => false

def SessionEvent.isClosed : SessionEvent → Bool
  | closed => true
  | _ => false

/-- At every moment one session is open at most, and in the end none. -/
structure Bracketed (events : List SessionEvent) : Prop where
  oneAtMost : ∀ past, past <+: events →
    past.countP SessionEvent.isClosed ≤ past.countP SessionEvent.isOpened ∧
      past.countP SessionEvent.isOpened ≤ past.countP SessionEvent.isClosed + 1
  allClosed : events.countP SessionEvent.isOpened = events.countP SessionEvent.isClosed

namespace SessionPhase

variable {phase phase' : SessionPhase} {events : List SessionEvent}

theorem sessions_next {ev : SessionEvent} (h : phase.next ev = some phase') :
    (if ev.isOpened then 1 else 0) + phase.sessions = (if ev.isClosed then 1 else 0) + phase'.sessions := by
  cases phase <;> cases ev <;> cases h <;> rfl

/-- What is opened and not closed is open. -/
theorem sessions_replay (h : phase.replay events = some phase') :
    events.countP SessionEvent.isOpened + phase.sessions
      = events.countP SessionEvent.isClosed + phase'.sessions := by
  induction events generalizing phase with
  | nil => cases h; rfl
  | cons ev r ih =>
    rw [replay, List.foldlM_cons] at h
    obtain ⟨between, hnext, hr⟩ := Option.bind_eq_some_iff.1 h
    have hev := sessions_next hnext
    have hrest := ih hr
    rw [List.countP_cons, List.countP_cons]
    omega

theorem replay_append (phase : SessionPhase) (events later : List SessionEvent) :
    phase.replay (events ++ later) = (phase.replay events).bind fun p => p.replay later :=
  List.foldlM_append

/-- A trace in which every event comes in its turn has its sessions bracketed. -/
theorem bracketed_of_replay (h : idle.replay events = some idle) : Bracketed events where
  oneAtMost past hpast := by
    obtain ⟨later, rfl⟩ := hpast
    rw [replay_append] at h
    obtain ⟨phase, hphase, -⟩ := Option.bind_eq_some_iff.1 h
    have hcount := sessions_replay hphase
    cases phase <;> simp only [sessions] at hcount <;> omega
  allClosed := sessions_replay h

end SessionPhase

/-! ## Calls -/

namespace SessionCall

def statement : SessionCall → Statement
  | rows s _ | count s _ => s

/-- What comes of a call: what the session raises, the rows, or the count as a whole number. -/
def answer : SessionCall → Outcome StoreAnswer
  | rows _ reply => reply.map .rows
  | count _ reply => do return .count (← SessionSource.countOf (← reply))

end SessionCall

namespace SessionSource

/-- What happens in a call, by where the session comes from. -/
def block : SessionSource → Statement → List SessionEvent
  | callers, s => [.executed s]
  | factory, s => [.created, .opened, .executed s, .closed]

/-- What is done in a session of either kind. -/
theorem within_executed {α : Type} (source : SessionSource) (s : Statement) (reply : Outcome α) :
    source.within (.event (.executed s) reply) = ⟨source.block s, reply⟩ := by
  cases source <;> rfl

/-- A call goes its way whatever the session replies, and hands on what it raises. -/
theorem call_eq (source : SessionSource) (c : SessionCall) : source.call c = ⟨source.block c.statement, c.answer⟩ := by
  cases c with
  | rows s reply =>
    rw [call, fetchRows, within_executed]
    cases reply <;> cases source <;> rfl
  | count s reply =>
    rw [call, fetchCount, within_executed]
    cases reply with
    | error f => cases source <;> rfl
    | ok v =>
      rw [Traced.bind_of_ok rfl, SessionCall.answer, ok_bind]
      cases countOf v <;> cases source <;> rfl

theorem run_eq (source : SessionSource) (calls : List SessionCall) :
    source.run calls = ⟨calls.flatMap fun c => source.block c.statement, calls.map SessionCall.answer⟩ := by
  induction calls with
  | nil => rfl
  | cons c r ih => rw [run, call_eq, ih]; rfl

/-- A block is carried out from no session to no session. -/
theorem replay_block (s : Statement) : SessionPhase.idle.replay (factory.block s) = some .idle := rfl

theorem replay_run (calls : List SessionCall) :
    SessionPhase.idle.replay (factory.run calls).events = some .idle := by
  rw [run_eq]
  induction calls with
  | nil => rfl
  | cons c r ih =>
    rw [List.flatMap_cons, SessionPhase.replay_append, replay_block]
    exact ih

/-- A source is made of one session or one factory, and of nothing else.  With a factory, every call creates,
opens and closes a session of its own around its statement, so that sessions are bracketed over every run;
with the caller's session, a call is its statement and nothing else.  Either way each call ends with what its
session raises, or with what it gives. -/
theorem run_brackets (calls : List SessionCall) :
    (∀ session factory source, ofGiven session factory = .ok source ↔
      (session = true ∧ factory = false ∧ source = .callers) ∨
        (session = false ∧ factory = true ∧ source = .factory)) ∧
    (factory.run calls).events
      = calls.flatMap (fun c => [.created, .opened, .executed c.statement, .closed]) ∧
    Bracketed (factory.run calls).events ∧
    (callers.run calls).events = calls.map (fun c => .executed c.statement) ∧
    (∀ source : SessionSource, (source.run calls).answers = calls.map SessionCall.answer) ∧
    ∀ s f, SessionCall.answer (.rows s (.error f)) = .error f ∧ SessionCall.answer (.count s (.error f)) = .error f := by
  refine ⟨fun session factory source => ?_, ?_, SessionPhase.bracketed_of_replay (replay_run calls), ?_,
    fun source => ?_, fun s f => ⟨rfl, rfl⟩⟩
  · cases session <;> cases factory <;> simp [ofGiven, eq_comm]
  · rw [run_eq]
    rfl
  · rw [run_eq]
    exact (List.map_eq_flatMap).symm
  · rw [run_eq]

end SessionSource

end PagedSelect
