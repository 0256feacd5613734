/-
# Running to completion

Every event goes through the inbox.  It is resolved to the end, which takes one transition, the
eventless transitions that follow and one publication, before the next event is looked at.  The
events of a run may queue further events without end, so emptying the inbox takes a budget: the
number of events that may be resolved before the caller is told that the inbox is still not empty.
-/
import Macrostep.Interpreter.Step

namespace Macrostep

namespace Interpreter

variable {S C E K O : Type} [DecidableEq S] [Label S] [DecidableEq K] [Kinded E K]

/-- An interpreter at the beginning of a machine. -/
def new (definition : Definition S C E K O) (options : Options := {}) : Interpreter S C E K O where
  definition
  options
  snapshot := definition.start
  watched := ⟨definition.start, 0⟩

/-- The generation of the effect that an envelope comes from, if that effect is not the active
one. -/
def staleGeneration? (it : Interpreter S C E K O) (envelope : Envelope E) : Option Nat :=
  match envelope.origin with
  | .external => none
  | .effect generation =>
    if it.effect.map ActiveEffect.generation = some generation then none else some generation

/-- Resolves an event that was taken from the inbox.  An event of an effect that is not active and
an event that no transition is enabled for change nothing. -/
def resolve (it : Interpreter S C E K O) (envelope : Envelope E) :
    Interpreter S C E K O × Except InterpreterError Unit :=
  match it.staleGeneration? envelope with
  | some generation => (it.log (.stale envelope.event generation), .ok ())
  | none =>
    match it.definition.select it.state it.context envelope.event with
    | none => (it.log (.unhandled it.state envelope.event), .ok ())
    | some t =>
      let (it, settled) := (it.take t (some envelope.event)).settle
      (it.emit, settled)

/-- Resolves an event that leaves the inbox; `inbox` is what stays in it. -/
def step (it : Interpreter S C E K O) (envelope : Envelope E) (inbox : Inbox E) :
    Interpreter S C E K O × Except InterpreterError Unit :=
  ({ it with inbox }.log (.taken envelope)).resolve envelope

/-- Resolves events until the inbox is empty or one of them fails, at most `budget` of them. -/
def drain : Nat → Interpreter S C E K O → Interpreter S C E K O × Except InterpreterError Unit
  | budget, it =>
    if it.status = .running then
      match it.inbox.pop?, budget with
      | none, _ => (it, .ok ())
      | some _, 0 => (it, .error .budgetSpent)
      | some (envelope, inbox), budget + 1 =>
        match it.step envelope inbox with
        | (it, .ok ()) => drain budget it
        | (it, .error error) => (it, .error error)
    else (it, .ok ())

/-- Starts the interpreter: the effect of the current state is started, eventless transitions are
taken, the position is published, and the events that were sent before are resolved.  Starting again
changes nothing. -/
def start (it : Interpreter S C E K O) (budget : Nat) :
    Interpreter S C E K O × Except InterpreterError (Snapshot S C) :=
  match it.status with
  | .running => (it, .ok it.snapshot)
  | .stopped => (it.log .startIgnored, .ok it.snapshot)
  | .notStarted =>
    let it := { it with status := .running }.log (.started it.state)
    match it.launch.settle with
    | (it, .error error) => (it.emit, .error error)
    | (it, .ok ()) =>
      let (it, drained) := it.emit.drain budget
      (it, drained.map fun _ => it.snapshot)

/-- Sends an event.  Before the start it is kept, or dropped if the options say so; after the stop
it is ignored. -/
def send (it : Interpreter S C E K O) (budget : Nat) (event : E) :
    Interpreter S C E K O × Except InterpreterError Unit :=
  match it.status with
  | .running => (it.enqueue .external event).drain budget
  | .notStarted =>
    if it.options.deferEvents then ((it.log (.deferred event)).enqueue .external event, .ok ())
    else (it.log (.dropped event), .ok ())
  | .stopped => (it.log (.ignored event), .ok ())

/-- How a wait for the next event ended. -/
inductive Next (S C : Type)
  /-- The interpreter is not running. -/
  | inert
  /-- There is nothing in the inbox. -/
  | waiting
  /-- Everything in the inbox was resolved. -/
  | settled (snapshot : Snapshot S C)
  /-- The call did not come to its end. -/
  | failed (error : InterpreterError)

/-- Resolves the next event and everything that is queued behind it. -/
def processNext (it : Interpreter S C E K O) (budget : Nat) : Interpreter S C E K O × Next S C :=
  if it.status = .running then
    if it.inbox.queue.isEmpty then (it, .waiting)
    else
      match it.drain budget with
      | (it, .ok ()) => (it, .settled it.snapshot)
      | (it, .error error) => (it, .failed error)
  else (it, .inert)

/-- Whether an event would be accepted in the current position. -/
def can (it : Interpreter S C E K O) (event : E) : Bool :=
  it.status ≠ .stopped && it.definition.accepts it.snapshot event

/-- Subscribes an observer and tells the number of the subscription.  A running interpreter shows
the current snapshot at once; a stopped one registers nothing. -/
def subscribe (it : Interpreter S C E K O) (react : Observer S C E O) :
    Interpreter S C E K O × Nat :=
  let id := it.nextSubscription
  let newcomer : Subscriber S C E O := { id, react }
  let it := { it with nextSubscription := id + 1 }
  match it.status with
  | .stopped => (it, id)
  | .notStarted => ({ it with subscribers := it.subscribers ++ [newcomer] }, id)
  | .running =>
    let shown := it.showTo newcomer
    let subscriber := { newcomer with seen := [it.snapshot] }
    ({ shown with subscribers := shown.subscribers ++ [subscriber] }, id)

/-- Removes an observer and tells whether it was there. -/
def unsubscribe (it : Interpreter S C E K O) (id : Nat) : Interpreter S C E K O × Bool :=
  let rest := it.subscribers.filter fun s => s.id ≠ id
  ({ it with subscribers := rest }, rest.length ≠ it.subscribers.length)

/-- Takes the failures of effects that have come together. -/
def takeWarnings (it : Interpreter S C E K O) : Interpreter S C E K O × List EffectError :=
  ({ it with warnings := [] }, it.warnings)

/-- Stops the interpreter for good: observers and waiting events are dropped, the inbox is closed
and the active effect is stopped.  Tells how its cleanup failed; a second stop does nothing. -/
def stop (it : Interpreter S C E K O) : Interpreter S C E K O × List EffectError :=
  if it.status = .stopped then (it, [])
  else
    let it := { it with status := .stopped, subscribers := [], inbox := { reception := .closed } }
    let (it, failure) := it.release
    let it := match failure with
      | some error => it.log (.cleanupFailed error)
      | none => it
    (it.log (.stopped it.state), failure.toList)

/-- Drops the interpreter: the inbox goes first, then the active effect is stopped. -/
def drop (it : Interpreter S C E K O) : Interpreter S C E K O :=
  let it := { it with inbox := it.inbox.discard, subscribers := [] }
  let id := (it.effect.map (·.handle.id)).getD ""
  match it.release with
  | (it, none) => it
  | (it, some error) => it.log (.cleanupFailedLate id error)

/-- Whether the interpreter was dropped. -/
def isDropped (it : Interpreter S C E K O) : Bool := it.inbox.reception = .gone

/-- When the active effect ticks next. -/
def nextTick? (it : Interpreter S C E K O) : Option Nat :=
  it.effect.bind fun active => active.handle.ticker.map fun _ => active.due

/-- Lets time pass: the ticker of the active effect, if it has one, goes from deadline to deadline,
and every tick that is due by then is put into the inbox, or the first `most` of them if a limit is
given.  Nothing is resolved. -/
def advanceTo (it : Interpreter S C E K O) (time : Nat) (most : Option Nat := none) :
    Interpreter S C E K O :=
  match it.effect with
  | none => { it with now := time }
  | some active =>
    match active.handle.ticker with
    | none => { it with now := time }
    | some ticker =>
      -- a period takes some time, so there are no more deadlines by then than moments
      let (it, due) :=
        ticker.run (enqueue · (.effect active.generation)) time (most.getD (time + 1)) active.due it
      { it with effect := some { active with due }, now := time }

/-- The records that the journal leaves in a log. -/
def records (it : Interpreter S C E K O) : List Record :=
  it.journal.filterMap (·.record? it.definition.id)

end Interpreter

end Macrostep
