/-
# Effects on a bench

An effect that is run by hand, on an inbox and a clock of its own.  The hand that runs it has a
sender for the inbox, and so does the ticker of the effect as long as it runs.  A ticker that is
stopped notices it only when time passes next, be it for no time at all.  When all senders are gone,
whoever receives learns that nothing will come.
-/
import Macrostep.Channel
import Macrostep.Effect.Holder
import Macrostep.Effect.Interval

namespace Macrostep

/-- An effect that is run by hand. -/
structure Bench (C E O : Type) where
  /-- The effect. -/
  effect : Effect C E O
  /-- The inbox. -/
  inbox : Inbox E := {}
  /-- Whether the hand has its sender. -/
  hasSender : Bool := true
  /-- The running effect. -/
  holder : Holder E O := {}
  /-- Whether a ticker that was stopped still has its sender; it gives it away when time passes. -/
  lingers : Bool := false
  /-- When its ticker sends next, in nanoseconds of the clock. -/
  due : Nat := 0
  /-- The time, in nanoseconds. -/
  now : Nat := 0

namespace Bench

variable {C E O : Type}

/-- Queues the events that user code sends. -/
def perform (bench : Bench C E O) (outputs : List (Output E O)) : Bench C E O :=
  { bench with inbox := bench.inbox.pushAll .external (Output.events outputs) }

/-- The ticker that runs. -/
def ticker? (bench : Bench C E O) : Option (Ticker E) := bench.holder.handle.bind Handle.ticker

/-- The bench after its ticker, if there is one, was told to stop. -/
def halted (bench : Bench C E O) : Bench C E O :=
  { bench with lingers := bench.lingers || bench.ticker?.isSome }

/-- Whether anyone has a sender. -/
def isConnected (bench : Bench C E O) : Bool := bench.hasSender || bench.ticker?.isSome || bench.lingers

/-- Starts the effect with a context; one that runs already is dropped if the start succeeds.
`none` if the hand has no sender to give away. -/
def start (bench : Bench C E O) (context : C) :
    Bench C E O × Option (Except EffectError (Handle E O)) :=
  if bench.hasSender then
    let startup := bench.effect.start ⟨⟨.external, bench.inbox.accepting⟩, true⟩ context
    let bench := bench.perform startup.outputs
    match startup.result with
    | .ok handle =>
      let (holder, outputs) := bench.holder.put bench.inbox.accepting handle
      let due := bench.now + (handle.ticker.map Ticker.period).getD 0
      ({ bench.halted with holder, due }.perform outputs, some (.ok handle))
    | .error error => (bench, some (.error error))
  else (bench, none)

/-- Lets time pass: the events that are due by then are put into the inbox, and tickers that were
stopped give their senders away. -/
def advance (bench : Bench C E O) (nanos : Nat) : Bench C E O :=
  let now := bench.now + nanos
  let bench := { bench with lingers := false }
  match bench.ticker? with
  | some ticker =>
    -- a period takes some time, so there are no more deadlines by then than moments
    let (inbox, due) :=
      ticker.run (fun inbox event => inbox.push ⟨event, .external⟩) now (now + 1) bench.due
        bench.inbox
    { bench with inbox, due, now }
  | none => { bench with now }

/-- Takes everything that waits, and what is found after it. -/
def receiveAll (bench : Bench C E O) : Bench C E O × List (Envelope E) × Receipt E :=
  let inbox := bench.inbox.emptied
  ({ bench with inbox }, bench.inbox.waiting, (inbox.receive bench.isConnected).2)

/-- Closes the inbox. -/
def close (bench : Bench C E O) : Bench C E O := { bench with inbox := bench.inbox.close }

/-- Drops the receiver and tells whether it was there. -/
def dropReceiver (bench : Bench C E O) : Bench C E O × Bool :=
  ({ bench with inbox := bench.inbox.discard }, bench.inbox.reception ≠ .gone)

/-- Drops the sender of the hand and tells whether it was there. -/
def dropSender (bench : Bench C E O) : Bench C E O × Bool :=
  ({ bench with hasSender := false }, bench.hasSender)

/-- Drops the running effect and tells whether there was one. -/
def dropEffect (bench : Bench C E O) : Bench C E O × Bool :=
  let (holder, was, outputs) := bench.holder.drop bench.inbox.accepting
  ({ bench.halted with holder }.perform outputs, was)

/-- Stops the running effect and tells how its cleanup failed; `none` if there is none. -/
def stop (bench : Bench C E O) : Bench C E O × Option (Option EffectError) :=
  match bench.holder.stop bench.inbox.accepting with
  | (holder, some (outputs, failure)) =>
    ({ bench.halted with holder }.perform outputs, some failure)
  | (holder, none) => ({ bench with holder }, none)

/-- Whether the sender of the hand would be refused; `none` if there is none. -/
def isClosed (bench : Bench C E O) : Option Bool :=
  if bench.hasSender then some !bench.inbox.accepting else none

end Bench

end Macrostep
