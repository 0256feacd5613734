/-
# Hosts

A host runs several interpreters on one clock.  Every interpreter that is made gets a session
number; the ones in use stand in numbered places.  Whoever sends events, watches or waits from
outside holds on to a session, and notices when its interpreter is dropped.  The clock moves only
when the host is told so, in whole milliseconds, and effects send their ticks only while it moves.
-/
import Macrostep.Checkpoint.Basic

namespace Macrostep

open Time

/-- The subscription of an observer in a session. -/
structure Token where
  /-- The session. -/
  session : Nat
  /-- The number of the subscription. -/
  subscription : Nat
deriving DecidableEq

/-- Someone who looks at the watched value of a session from time to time. -/
structure Watcher where
  /-- The session. -/
  session : Nat
  /-- The count of publications at the last look. -/
  version : Nat

/-- The outlet of an effect of a session, in the hands of someone outside. -/
structure LentOutlet where
  /-- The session. -/
  session : Nat
  /-- The origin of its events. -/
  origin : Origin

/-- Several interpreters on one clock. -/
structure Host (S C E K O : Type) where
  /-- Whether there are timers; without them no time passes. -/
  timers : Bool := true
  /-- The time, in milliseconds. -/
  clock : Nat := 0
  /-- The interpreters that were made, by session. -/
  sessions : List (Interpreter S C E K O) := []
  /-- The session in each place that is in use. -/
  places : List (Nat × Nat) := []
  /-- What has happened since the journal was last taken, by session. -/
  journal : List (Nat × Occurrence S C E O) := []
  /-- The subscriptions that were made. -/
  tokens : List Token := []
  /-- The sessions of the senders that were handed out. -/
  senders : List Nat := []
  /-- The watchers. -/
  watchers : List Watcher := []
  /-- The outlets that effects have handed out. -/
  outlets : List LentOutlet := []
  /-- The checkpoints that were put away. -/
  checkpoints : List (Checkpoint S C) := []

namespace Host

/-- The nanoseconds of a millisecond. -/
def nanosPerMilli : Nat := 1000000

/-- The longest wait for an event, in milliseconds. -/
def patience : Nat := 3600000

/-- The most ticks that an effect sends before a session that waits for one has its turn. -/
def burst : Nat := 128

variable {S C E K O : Type}

/-- The session in a place. -/
def sessionAt? (host : Host S C E K O) (place : Nat) : Option Nat := host.places.lookup place

/-- The interpreter in a place. -/
def interpreterAt? (host : Host S C E K O) (place : Nat) : Option (Interpreter S C E K O) := do
  host.sessions[← host.sessionAt? place]?

/-- The number of places that are in use. -/
def occupied (host : Host S C E K O) : Nat := host.places.length

/-- The host after a session has changed: its journal is collected, and so are the outlets that its
effects have handed out. -/
def collect (host : Host S C E K O) (session : Nat) (it : Interpreter S C E K O) :
    Host S C E K O :=
  let lent := it.journal.filterMap fun
    | .lent origin => some (LentOutlet.mk session origin)
    | _ => none
  { host with
    sessions := host.sessions.set session it.withoutJournal
    journal := host.journal ++ it.journal.map fun occurrence => (session, occurrence)
    outlets := host.outlets ++ lent }

/-- Changes a session. -/
def update (host : Host S C E K O) (session : Nat)
    (f : Interpreter S C E K O → Interpreter S C E K O) : Host S C E K O :=
  match host.sessions[session]? with
  | some it => host.collect session (f it)
  | none => host

/-- Carries out a call on a session. -/
def call {A : Type} (host : Host S C E K O) (session : Nat)
    (f : Interpreter S C E K O → Interpreter S C E K O × A) : Host S C E K O × Option A :=
  match host.sessions[session]? with
  | some it =>
    let (it, answer) := f it
    (host.collect session it, some answer)
  | none => (host, none)

/-- Takes the journal. -/
def takeJournal (host : Host S C E K O) : Host S C E K O × List (Nat × Occurrence S C E O) :=
  ({ host with journal := [] }, host.journal)

/-- Drops the interpreter in a place and tells whether there was one. -/
def dropAt (host : Host S C E K O) (place : Nat) : Host S C E K O × Bool :=
  match host.sessionAt? place with
  | none => (host, false)
  | some session =>
    let host := { host with places := host.places.filter fun entry => entry.1 ≠ place }
    (host.update session Interpreter.drop, true)

/-- Puts an interpreter into a place; the one that was there before is dropped. -/
def install (host : Host S C E K O) (place : Nat) (it : Interpreter S C E K O) : Host S C E K O :=
  let session := host.sessions.length
  let it := { it with now := host.clock * nanosPerMilli, timers := host.timers }
  let (host, _) := { host with sessions := host.sessions ++ [it] }.dropAt place
  { host with places := (place, session) :: host.places }

/-- Lets time pass for all sessions.  Every tick that is due by then is sent, or the first `most` of
each session if a limit is given; the others are sent when time passes next. -/
def advance (host : Host S C E K O) (millis : Nat) (most : Option Nat := none) : Host S C E K O :=
  if host.timers then
    let clock := host.clock + millis
    let host := { host with clock }
    (List.range host.sessions.length).foldl
      (fun host session => host.update session (·.advanceTo (clock * nanosPerMilli) most)) host
  else host

/-- How a wait for the next event of a session ended. -/
inductive Wait (S C : Type)
  /-- The interpreter is not running. -/
  | inert
  /-- Nothing came in time. -/
  | idle
  /-- Everything in the inbox was resolved. -/
  | settled (snapshot : Snapshot S C)
  /-- The call did not come to its end. -/
  | failed (error : InterpreterError)

/-- The milliseconds until a session ticks next, rounded up; none are left if a tick is overdue. -/
def untilTick? (host : Host S C E K O) (session : Nat) : Option Nat := do
  let due ← (← host.sessions[session]?).nextTick?
  some ((due + (nanosPerMilli - 1)) / nanosPerMilli - host.clock)

section

variable [DecidableEq S] [Label S] [DecidableEq K] [Kinded E K]

/-- Resolves what is in the inbox of a session. -/
def processNext (host : Host S C E K O) (session budget : Nat) : Host S C E K O × Wait S C :=
  match host.call session (·.processNext budget) with
  | (host, some (.settled snapshot)) => (host, .settled snapshot)
  | (host, some (.failed error)) => (host, .failed error)
  | (host, some .waiting) => (host, .idle)
  | (host, some .inert) => (host, .inert)
  | (host, none) => (host, .inert)

/-- Lets time pass up to the next tick of a session, which is so many milliseconds away; what is due
in the last millisecond comes in one burst. -/
def advanceToTick (host : Host S C E K O) : Nat → Host S C E K O
  | 0 => host.advance 0 (some burst)
  | millis + 1 => (host.advance millis).advance 1 (some burst)

/-- Lets the whole wait for an event pass; ticks that are due when it ends come after it. -/
def advanceByPatience (host : Host S C E K O) : Host S C E K O :=
  (host.advance (patience - 1)).advance 1 (some 0)

/-- Waits for the next event of a session and resolves it with everything behind it.  If the inbox
is empty, the clock moves to the next tick of the session; if there is none before the wait is over,
the clock moves by the whole wait. -/
def next (host : Host S C E K O) (session budget : Nat) : Host S C E K O × Wait S C :=
  match host.processNext session budget with
  | (host, .idle) =>
    if host.timers then
      match host.untilTick? session with
      | some millis =>
        if millis < patience then (host.advanceToTick millis).processNext session budget
        else (host.advanceByPatience, .idle)
      | none => (host.advanceByPatience, .idle)
    else (host, .idle)
  | answer => answer

end

/-- Subscribes an observer to a session and tells the number of the subscription.  The token is the
last one in the list. -/
def subscribe (host : Host S C E K O) (session : Nat) (react : Observer S C E O) :
    Host S C E K O × Nat :=
  match host.call session (·.subscribe react) with
  | (host, some subscription) =>
    ({ host with tokens := host.tokens ++ [⟨session, subscription⟩] }, subscription)
  | (host, none) => (host, 0)

/-- The place in the list of the token of a subscription. -/
def tokenOf? (host : Host S C E K O) (session subscription : Nat) : Option Nat :=
  host.tokens.idxOf? ⟨session, subscription⟩

/-- Hands out a sender for a session and tells its number. -/
def addSender (host : Host S C E K O) (session : Nat) : Host S C E K O × Nat :=
  ({ host with senders := host.senders ++ [session] }, host.senders.length)

/-- Begins to watch a session and tells the number of the watcher. -/
def addWatcher (host : Host S C E K O) (session : Nat) : Host S C E K O × Nat :=
  let version := (host.sessions[session]?.map (·.watched.version)).getD 0
  ({ host with watchers := host.watchers ++ [⟨session, version⟩] }, host.watchers.length)

/-- What a watcher learns besides the watched value. -/
inductive Change
  /-- Nothing was published since the last look. -/
  | unchanged
  /-- Something was published since the last look. -/
  | changed
  /-- The interpreter was dropped. -/
  | closed

/-- Lets a watcher look at the watched value. -/
def look (host : Host S C E K O) (number : Nat) : Host S C E K O × Option (Change × Snapshot S C) :=
  match host.watchers[number]? with
  | none => (host, none)
  | some watcher =>
    match host.sessions[watcher.session]? with
    | none => (host, none)
    | some it =>
      let version := it.watched.version
      let change :=
        if it.isDropped then .closed
        else if version = watcher.version then .unchanged
        else .changed
      ({ host with watchers := host.watchers.set number { watcher with version } },
        some (change, it.watched.value))

/-- Whether the inbox of a session accepts events. -/
def accepts (host : Host S C E K O) (session : Nat) : Bool :=
  host.sessions[session]?.any fun it => it.inbox.accepting

/-- Puts an event into the inbox of a session and tells whether it was accepted.  Nothing is
resolved. -/
def put (host : Host S C E K O) (session : Nat) (origin : Origin) (event : E) :
    Host S C E K O × Bool :=
  (host.update session (·.enqueue origin event), host.accepts session)

/-- Puts a checkpoint away and tells its number. -/
def keep (host : Host S C E K O) (cp : Checkpoint S C) : Host S C E K O × Nat :=
  ({ host with checkpoints := host.checkpoints ++ [cp] }, host.checkpoints.length)

end Host

/-- The entries of a history, dated one after the other from a first time on, at a distance in
milliseconds. -/
def History.datedFrom {S : Type} (history : History S) (first distance : Nat) : History S :=
  ⟨history.entries.mapIdx fun k entry =>
    { entry with time := .ofNanos ((first + distance * k) * Host.nanosPerMilli) }⟩

/-- The checkpoint under another name and with other dates, so that it depends on nothing but what
was captured.  Dates are in milliseconds. -/
def Checkpoint.anonymous {S C : Type} (cp : Checkpoint S C) (id : String) (first distance : Nat) :
    Checkpoint S C :=
  { cp with
    id
    timestamp := .ofNanos (first * Host.nanosPerMilli)
    history := cp.history.datedFrom first distance }

end Macrostep
