/-
# What happens in an interpreter

An interpreter keeps a journal: everything that happens in it, in order.  Notes of user code stand
in it beside the interpreter's own occurrences, and the records of a log are a reading of it.
-/
import Macrostep.Effect.Basic
import Macrostep.Inbox
import Macrostep.Snapshot
import Macrostep.State

namespace Macrostep

/-- Something that happened in an interpreter. -/
inductive Occurrence (S C E O : Type)
  /-- The interpreter was started in a state. -/
  | started (state : S)
  /-- A start after the stop had no effect. -/
  | startIgnored
  /-- An event that came before the start is kept for it. -/
  | deferred (event : E)
  /-- An event that came before the start is lost. -/
  | dropped (event : E)
  /-- An event that came after the stop is lost. -/
  | ignored (event : E)
  /-- The inbox took an event. -/
  | accepted (envelope : Envelope E)
  /-- The inbox did not take an event. -/
  | refused (envelope : Envelope E)
  /-- An event left the inbox to be resolved. -/
  | taken (envelope : Envelope E)
  /-- An event came from an effect that is not the active one. -/
  | stale (event : E) (generation : Nat)
  /-- No transition is enabled for an event. -/
  | unhandled (state : S) (event : E)
  /-- A transition with a target was taken; `none` stands for an eventless one. -/
  | transitioned (source target : S) (event : Option E)
  /-- The effect of a state is about to be started for a context. -/
  | launching (state : S) (context : C) (generation : Nat)
  /-- An effect was started. -/
  | launched (id : String) (generation : Nat)
  /-- An effect failed to start. -/
  | launchFailed (error : EffectError)
  /-- The handle of an effect is stopped, and its cleanup runs if it is still to run. -/
  | cleaned (generation : Nat)
  /-- The cleanup of an effect failed, on leaving its state or at the stop. -/
  | cleanupFailed (error : EffectError)
  /-- The cleanup of an effect failed when the interpreter was dropped. -/
  | cleanupFailedLate (id : String) (error : EffectError)
  /-- A snapshot was published. -/
  | emitted (snapshot : Snapshot S C)
  /-- The observer of a subscription saw a snapshot. -/
  | observed (subscription : Nat) (snapshot : Snapshot S C)
  /-- Eventless transitions were cut after a number of steps. -/
  | unsettled (state : S) (steps : Nat)
  /-- The interpreter was stopped in a state. -/
  | stopped (state : S)
  /-- User code left a note. -/
  | noted (content : O)
  /-- User code handed its outlet to someone outside. -/
  | lent (origin : Origin)

/-- The weight of a record. -/
inductive Level
  | trace
  | debug
  | warn
deriving DecidableEq

/-- A record of a log. -/
structure Record where
  /-- The weight. -/
  level : Level
  /-- The message. -/
  message : String
  /-- Named details. -/
  fields : List (String × String)
deriving DecidableEq

variable {S C E K O : Type} [Label S] [Kinded E K]

/-- The record that an occurrence leaves in the log of a machine, if it leaves one. -/
def Occurrence.record? (machine : String) : Occurrence S C E O → Option Record
  | started state =>
    some ⟨.debug, "interpreter started", [("machine", machine), ("state", Label.name state)]⟩
  | startIgnored => some ⟨.debug, "start ignored, interpreter stopped", [("machine", machine)]⟩
  | deferred event =>
    some ⟨.trace, "event deferred until start", [("machine", machine), ("event", kindNameOf event)]⟩
  | dropped event =>
    some ⟨.warn, "event sent before start dropped",
      [("machine", machine), ("event", kindNameOf event)]⟩
  | ignored event =>
    some ⟨.trace, "event sent after stop ignored",
      [("machine", machine), ("event", kindNameOf event)]⟩
  | stale event generation =>
    some ⟨.trace, "discarding event from stopped effect",
      [("machine", machine), ("event", kindNameOf event), ("generation", toString generation)]⟩
  | unhandled state event =>
    some ⟨.trace, "event not handled",
      [("machine", machine), ("state", Label.name state), ("event", kindNameOf event)]⟩
  | transitioned source target event =>
    some ⟨.debug, "transition",
      [("machine", machine), ("from", Label.name source), ("to", Label.name target),
        ("event", (event.map kindNameOf).getD "<eventless>")]⟩
  | launched id generation =>
    some ⟨.debug, "effect started",
      [("machine", machine), ("effect", id), ("generation", toString generation)]⟩
  | launchFailed error => some ⟨.warn, error.message, [("machine", machine)]⟩
  | cleanupFailed error => some ⟨.warn, error.message, [("machine", machine)]⟩
  | cleanupFailedLate id error => some ⟨.warn, error.message, [("effect", id)]⟩
  | unsettled state steps =>
    some ⟨.warn, "eventless transitions did not settle",
      [("machine", machine), ("state", Label.name state), ("steps", toString steps)]⟩
  | stopped state =>
    some ⟨.debug, "interpreter stopped", [("machine", machine), ("state", Label.name state)]⟩
  | _ => none

end Macrostep
