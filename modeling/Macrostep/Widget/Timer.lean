/-
# A timer

A timer that counts up to a duration, which can be changed while it runs.  While it runs an effect
ticks; when the duration is reached the machine moves to a state without an effect, and back when
the duration grows or the timer is reset.
-/
import Macrostep.Describe
import Macrostep.Draft.Build
import Macrostep.Effect.Interval
import Macrostep.Stored

namespace Macrostep.Widget.Timer

open Decimal

/-- Whether the timer counts. -/
inductive State
  | running
  | paused
deriving DecidableEq

/-- What is done to a timer. -/
inductive Event
  /-- One period has passed. -/
  | tick
  /-- Sets the duration. -/
  | durationUpdate (duration : Binary64)
  /-- Begins again. -/
  | reset
deriving DecidableEq

/-- The kinds of events. -/
inductive Kind
  | tick
  | durationUpdate
  | reset
deriving DecidableEq

/-- The times of a timer, in seconds. -/
structure Context where
  /-- The time that has passed, rounded to hundredths. -/
  elapsed : Binary64
  /-- The time at which the timer pauses. -/
  duration : Binary64
  /-- The distance of two ticks. -/
  interval : Binary64
deriving DecidableEq

/-- The name of a state. -/
def State.name : State → String
  | running => "Running"
  | paused => "Paused"

/-- The name of a kind of event. -/
def Kind.name : Kind → String
  | tick => "Tick"
  | durationUpdate => "DurationUpdate"
  | reset => "Reset"

/-- The kind of an event. -/
def Event.kind : Event → Kind
  | tick => .tick
  | durationUpdate _ => .durationUpdate
  | reset => .reset

instance : Label State where
  name := State.name

instance : Kinded Event Kind where
  kind := Event.kind
  kindName := Kind.name

instance : Stored State := .ofNames [.running, .paused] State.name

instance : Describe State := ⟨State.name⟩

open Stored in
instance : Stored Context where
  toJson c := .record [("elapsed", toJson c.elapsed), ("duration", toJson c.duration),
    ("interval", toJson c.interval)]
  ofJson? j := do
    let [elapsed, duration, interval] ← j.fields? ["elapsed", "duration", "interval"] | none
    let elapsed ← required elapsed
    let duration ← required duration
    let interval ← required interval
    some { elapsed, duration, interval }
  write c := write c.elapsed ++ write c.duration ++ write c.interval
  read os := do
    let (elapsed, os) ← read os
    let (duration, os) ← read os
    let (interval, os) ← read os
    some ({ elapsed, duration, interval }, os)

instance : Describe Context where
  describe c := describeRecord "Timer" [("elapsed", describe c.elapsed),
    ("duration", describe c.duration), ("interval", describe c.interval)]

/-- The event that a JSON value spells. -/
def Event.ofJson? : Json → Option Event
  | .string (some "Tick") => some .tick
  | .string (some "Reset") => some .reset
  | .array [.string (some "DurationUpdate"), duration] => duration.float?.map .durationUpdate
  | _ => none

/-- A number of seconds in nanoseconds, rounded to the nearest, a half to the even one; a negative
number counts as none. -/
def nanoseconds (seconds : Binary64) : Nat :=
  if seconds.isNegative then 0
  else
    let (num, den) := seconds.ratio
    roundDiv (num * 1000000000) den

/-- A number rounded to hundredths. -/
def roundHundredths (x : Binary64) : Binary64 := (x * 100).round / 100

/-- Lets one period pass. -/
def Context.tick (c : Context) : Context :=
  { c with elapsed := roundHundredths (c.elapsed + c.interval) }

/-- Sets the duration. -/
def Context.setDuration (c : Context) : Option Event → Context
  | some (.durationUpdate duration) => { c with duration }
  | _ => c

/-- Begins again. -/
def Context.reset (c : Context) : Context := { c with elapsed := 0 }

variable {O : Type}

/-- The machine, with a duration. -/
def draft (duration : Binary64) : Draft State Context Event Kind O :=
  ({ initial := .running, context := ⟨0, duration, 1 / 10⟩ } : Draft State Context Event Kind O)
    |>.withId "timer"
    |>.state .running (fun s => s
      |>.invoke (Macrostep.interval "ticker" (fun c => nanoseconds c.interval) .tick)
      |>.onKind .tick (TransitionDraft.assign {} fun c _ => c.tick)
      |>.eventless (TransitionDraft.withGuard (.goto .paused)
        fun c _ => c.duration.atMost c.elapsed))
    |>.state .paused (fun s => s
      |>.eventless (TransitionDraft.withGuard (.goto .running)
        fun c _ => c.elapsed.less c.duration))
    |>.on .durationUpdate (TransitionDraft.assign {} Context.setDuration)
    |>.on .reset (TransitionDraft.assign {} fun c _ => c.reset)

end Macrostep.Widget.Timer
