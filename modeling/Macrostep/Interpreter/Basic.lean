/-
# Interpreters

An interpreter is one running instance of a definition.  It owns the current snapshot, the effect of
the current state, the observers, the watched value and the inbox, and it keeps a journal.  This
file holds the data and the small moves that the larger ones are made of: writing the journal,
carrying out the outputs of user code, and publishing a snapshot.
-/
import Macrostep.Definition
import Macrostep.Effect.Interval
import Macrostep.History
import Macrostep.Inbox
import Macrostep.Interpreter.Occurrence
import Macrostep.Interpreter.Options

namespace Macrostep

/-- Where an interpreter is in its life. -/
inductive Status
  | notStarted
  | running
  | stopped
deriving DecidableEq

/-- Why a call on an interpreter did not come to its end. -/
inductive InterpreterError
  /-- Eventless transitions were still enabled after the most steps that are allowed. -/
  | nonTerminatingChain (state : String) (steps : Nat)
  /-- The inbox was still not empty after the number of events that the caller granted. -/
  | budgetSpent
deriving DecidableEq

/-- The wording of an error. -/
def InterpreterError.message : InterpreterError → String
  | nonTerminatingChain state steps =>
    s!"Eventless transitions did not settle in state '{state}' after {steps} steps"
  | budgetSpent => "the inbox did not become empty"

/-- Someone who is told about snapshots.  What an observer does may depend on the snapshots that it
has seen before, the latest first. -/
abbrev Observer (S C E O : Type) := List (Snapshot S C) → Snapshot S C → List (Output E O)

/-- An observer under the number of its subscription. -/
structure Subscriber (S C E O : Type) where
  /-- The number of the subscription. -/
  id : Nat
  /-- What it does. -/
  react : Observer S C E O
  /-- What it has seen, the latest first. -/
  seen : List (Snapshot S C) := []

/-- A value that always holds the latest published snapshot, with a count of the publications. -/
structure Watched (S C : Type) where
  /-- The latest snapshot. -/
  value : Snapshot S C
  /-- How often it was replaced. -/
  version : Nat := 0

/-- The effect of the current state. -/
structure ActiveEffect (E O : Type) where
  /-- The number of its start. -/
  generation : Nat
  /-- The handle that stops it. -/
  handle : Handle E O
  /-- When its ticker sends next, in nanoseconds of the clock. -/
  due : Nat

/-- A running instance of a definition. -/
structure Interpreter (S C E K O : Type) where
  /-- The machine that is run. -/
  definition : Definition S C E K O
  /-- How it is run. -/
  options : Options
  /-- Where it is in its life. -/
  status : Status := .notStarted
  /-- The current position. -/
  snapshot : Snapshot S C
  /-- The states that were entered. -/
  history : History S := {}
  /-- The number of the next subscription. -/
  nextSubscription : Nat := 0
  /-- The observers, in the order of their subscription. -/
  subscribers : List (Subscriber S C E O) := []
  /-- The latest published snapshot. -/
  watched : Watched S C
  /-- The events that wait. -/
  inbox : Inbox E := {}
  /-- The effect of the current state. -/
  effect : Option (ActiveEffect E O) := none
  /-- How many starts of effects were attempted. -/
  generation : Nat := 0
  /-- The failures of effects that nobody has taken yet. -/
  warnings : List EffectError := []
  /-- The time, in nanoseconds of the clock. -/
  now : Nat := 0
  /-- Whether there are timers. -/
  timers : Bool := true
  /-- What has happened since the journal was last taken, the latest first. -/
  recorded : List (Occurrence S C E O) := []

namespace Interpreter

variable {S C E K O : Type}

/-- The current state. -/
def state (it : Interpreter S C E K O) : S := it.snapshot.state

/-- The current context. -/
def context (it : Interpreter S C E K O) : C := it.snapshot.context

/-- The journal: what has happened since it was last taken, in order. -/
def journal (it : Interpreter S C E K O) : List (Occurrence S C E O) := it.recorded.reverse

/-- Adds an occurrence to the journal. -/
def log (it : Interpreter S C E K O) (occurrence : Occurrence S C E O) : Interpreter S C E K O :=
  { it with recorded := occurrence :: it.recorded }

/-- The interpreter with an empty journal. -/
def withoutJournal (it : Interpreter S C E K O) : Interpreter S C E K O :=
  { it with recorded := [] }

@[simp] theorem journal_log (it : Interpreter S C E K O) (occurrence : Occurrence S C E O) :
    (it.log occurrence).journal = it.journal ++ [occurrence] := by
  simp [journal, log]

/-- Puts an event into the inbox, if the inbox still accepts events. -/
def enqueue (it : Interpreter S C E K O) (origin : Origin) (event : E) : Interpreter S C E K O :=
  let envelope : Envelope E := ⟨event, origin⟩
  if it.inbox.accepting then
    { it with inbox := it.inbox.push envelope }.log (.accepted envelope)
  else it.log (.refused envelope)

/-- Carries out one output of user code whose outlet has the given origin. -/
def perform (origin : Origin) (it : Interpreter S C E K O) : Output E O → Interpreter S C E K O
  | .send event => it.enqueue origin event
  | .note content => it.log (.noted content)
  | .share => it.log (.lent origin)

/-- Carries out outputs of user code, in order. -/
def performAll (it : Interpreter S C E K O) (origin : Origin) (outputs : List (Output E O)) :
    Interpreter S C E K O :=
  outputs.foldl (perform origin) it

/-- The outlet of user code that is no effect. -/
def outlet (it : Interpreter S C E K O) : Outlet := ⟨.external, it.inbox.accepting⟩

/-- Shows the current snapshot to an observer. -/
def showTo (it : Interpreter S C E K O) (subscriber : Subscriber S C E O) : Interpreter S C E K O :=
  (it.log (.observed subscriber.id it.snapshot)).performAll .external
    (subscriber.react subscriber.seen it.snapshot)

/-- Shows the current snapshot to every observer, in the order of their subscription. -/
def notify (it : Interpreter S C E K O) : Interpreter S C E K O :=
  let after := it.subscribers.foldl showTo it
  { after with
    subscribers := it.subscribers.map fun s => { s with seen := it.snapshot :: s.seen } }

/-- Publishes the current snapshot: the watched value is replaced, then the observers are told. -/
def emit (it : Interpreter S C E K O) : Interpreter S C E K O :=
  ({ it with watched := ⟨it.snapshot, it.watched.version + 1⟩ }.log (.emitted it.snapshot)).notify

end Interpreter

end Macrostep
