import SnRouting.States.Adult.Backlog

/-!
# Pausing and resuming an Adult

`Adult::pause` moves the chain, the identity, the genesis, the filter, both message backlogs,
the network service, the accumulator and the parsec map into a `PausedState`, and
`Adult::resume` moves them back, scheduling a new knowledge timer on the timer it is given and
drawing a fresh rng. `PausedState` has no field for `event_backlog` and `resume` starts it
empty, so the events `send_event` queued in the Adult do not survive the round trip. The
genesis and both backlogs do, so a pause and resume between two runs keeps what `Genesis` and
`Backlog` prove of runs.
-/

namespace SnRouting.States
set_option autoImplicit false

namespace Adult

variable {E : Env} (ops : AdultOps E)

/-- Resuming a paused Adult on `timer` gives it back with a knowledge timer scheduled on
`timer`, a fresh rng and an empty event backlog; every other field is carried over. -/
theorem resume_pause (s : Adult E) (timer : E.Timer) :
    resume ops (pause s) timer =
      { s with eventBacklog := [], timer := (ops.schedule timer knowledgeTimeout).1,
               knowledgeTimerToken := (ops.schedule timer knowledgeTimeout).2,
               rng := ops.rngNew } :=
  rfl

end Adult

/-- An event queued by `send_event` before a pause is gone after the resume. -/
theorem resume_pause_drops_event :
    (Adult.sendEvent pendingAdult ()).eventBacklog = [()] ∧
      (Adult.resume trustingOps (Adult.pause (Adult.sendEvent pendingAdult ())) ()).eventBacklog =
        [] :=
  ⟨rfl, rfl⟩

end SnRouting.States
