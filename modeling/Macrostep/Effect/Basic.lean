/-
# Effects

A state may invoke an effect, which lives as long as the machine stays in the state.  Starting an
effect yields a handle or fails.  Stopping a handle runs its cleanup, once; a later stop does
nothing.  A handle may carry a ticker, a source of events at equal distances in time.
-/
import Macrostep.Event

namespace Macrostep

/-- Failures of effects.  They never hold up the machine. -/
inductive EffectError
  /-- The effect did not start. -/
  | startFailed (id reason : String)
  /-- The cleanup of the effect failed. -/
  | cleanupFailed (id reason : String)
  /-- The effect needs timers and there are none. -/
  | noRuntime (id : String)
deriving DecidableEq

/-- The wording of a failure. -/
def EffectError.message : EffectError → String
  | startFailed id reason => s!"Effect '{id}' failed to start: {reason}"
  | cleanupFailed id reason => s!"Effect '{id}' cleanup failed: {reason}"
  | noRuntime id => s!"Effect '{id}' requires a Tokio runtime"

/-- What a cleanup did, and the reason if it failed. -/
structure Ending (E O : Type) where
  /-- What was done outside. -/
  outputs : List (Output E O) := []
  /-- The reason of a failure. -/
  failure : Option String := none

/-- A source of events at equal distances in time. -/
structure Ticker (E : Type) where
  /-- The distance of two events, in nanoseconds. -/
  period : Nat
  /-- The event that is sent each time. -/
  event : E
  /-- Some time passes between two events. -/
  period_pos : 0 < period

/-- A running effect. -/
structure Handle (E O : Type) where
  /-- The name of the effect. -/
  id : String := ""
  /-- The cleanup that is still to run; it is told whether the inbox still accepts events. -/
  cleanup : Option (Bool → Ending E O)
  /-- The source of events that runs until the handle is stopped. -/
  ticker : Option (Ticker E) := none

namespace Handle

variable {E O : Type}

/-- A handle with nothing to release. -/
def noop : Handle E O := { cleanup := some fun _ => {} }

/-- A handle whose cleanup cannot fail. -/
def releasing (outputs : List (Output E O)) : Handle E O := { cleanup := some fun _ => { outputs } }

/-- Whether the cleanup is still to run. -/
def isActive (handle : Handle E O) : Bool := handle.cleanup.isSome

/-- What stopping the handle does. -/
def ending (handle : Handle E O) (accepting : Bool) : Ending E O :=
  match handle.cleanup with
  | some run => run accepting
  | none => {}

/-- The handle after it was stopped. -/
def stopped (handle : Handle E O) : Handle E O :=
  { handle with cleanup := none, ticker := none }

/-- The failure of stopping the handle, if it fails. -/
def failure? (handle : Handle E O) (accepting : Bool) : Option EffectError :=
  (handle.ending accepting).failure.map (EffectError.cleanupFailed handle.id)

end Handle

/-- What starting an effect did, and the handle or the failure it ended with. -/
structure Startup (E O : Type) where
  /-- What was done outside. -/
  outputs : List (Output E O) := []
  /-- How it ended. -/
  result : Except EffectError (Handle E O)

/-- The circumstances in which an effect is started. -/
structure Surroundings where
  /-- The way by which its events leave. -/
  outlet : Outlet
  /-- Whether there are timers. -/
  timers : Bool

/-- The effect that a state invokes. -/
structure Effect (C E O : Type) where
  /-- The name of the effect. -/
  id : String
  /-- Starts the effect for the context with which the state is entered. -/
  launch : Surroundings → C → Startup E O

/-- Starts an effect; its handle bears its name. -/
def Effect.start {C E O : Type} (effect : Effect C E O) (surroundings : Surroundings) (context : C) :
    Startup E O :=
  let startup := effect.launch surroundings context
  { startup with result := startup.result.map fun handle => { handle with id := effect.id } }

end Macrostep
