import PagedSelect.Failure
/-!
# Traced outcomes

An outcome together with what happened on the way to it.  What happened before a failure stays in
the trace, and nothing is added behind the failure.
-/

namespace PagedSelect

/-- What happened, in order, and how it ended. -/
structure Traced (ε α : Type) where
  events : List ε
  outcome : Outcome α

namespace Traced

variable {ε α β : Type}

/-- An outcome without events. -/
def silent (outcome : Outcome α) : Traced ε α := ⟨[], outcome⟩

/-- One event and its outcome. -/
def event (e : ε) (outcome : Outcome α) : Traced ε α := ⟨[e], outcome⟩

/-- Goes on with a result; a failure ends the trace. -/
def andThen (t : Traced ε α) (f : α → Traced ε β) : Traced ε β :=
  match t.outcome with
  | .ok a => ⟨t.events ++ (f a).events, (f a).outcome⟩
  | .error e => ⟨t.events, .error e⟩

/-- Events in front of a trace and behind it, however it ends. -/
def between (before after : List ε) (t : Traced ε α) : Traced ε α :=
  ⟨before ++ t.events ++ after, t.outcome⟩

instance : Monad (Traced ε) where
  pure a := silent (.ok a)
  bind := andThen

end Traced

end PagedSelect
