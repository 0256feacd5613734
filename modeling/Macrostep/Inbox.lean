/-
# Inboxes

The queue in front of a machine.  Events are taken in the order in which they were accepted.  A
closed inbox accepts nothing more but can still be emptied; one that is gone has lost its queue.
-/
import Macrostep.Event
import Macrostep.Queue

namespace Macrostep

/-- Whether the receiving end of an inbox is open. -/
inductive Reception
  /-- Events are accepted. -/
  | listening
  /-- No event is accepted any more; what is queued can still be taken. -/
  | closed
  /-- The receiving end does not exist any more. -/
  | gone
deriving DecidableEq

/-- A queue of events and the state of its receiving end. -/
structure Inbox (E : Type) where
  /-- The events that wait. -/
  queue : Queue (Envelope E) := {}
  /-- Whether the receiving end is open. -/
  reception : Reception := .listening

namespace Inbox

variable {E : Type}

/-- The events that wait, the oldest first. -/
def waiting (inbox : Inbox E) : List (Envelope E) := inbox.queue.toList

/-- Whether an event sent now would be queued. -/
def accepting (inbox : Inbox E) : Bool := inbox.reception = .listening

/-- Queues an event at the end, if the inbox is listening. -/
def push (inbox : Inbox E) (envelope : Envelope E) : Inbox E :=
  if inbox.accepting then { inbox with queue := inbox.queue.push envelope } else inbox

/-- Queues events of one origin at the end, if the inbox is listening. -/
def pushAll (inbox : Inbox E) (origin : Origin) (events : List E) : Inbox E :=
  events.foldl (fun inbox event => inbox.push ⟨event, origin⟩) inbox

/-- Takes the oldest event. -/
def pop? (inbox : Inbox E) : Option (Envelope E × Inbox E) :=
  inbox.queue.pop?.map fun (envelope, queue) => (envelope, { inbox with queue })

/-- Takes everything that waits. -/
def emptied (inbox : Inbox E) : Inbox E := { inbox with queue := {} }

/-- Accepts nothing more. -/
def close (inbox : Inbox E) : Inbox E :=
  if inbox.reception = .gone then inbox else { inbox with reception := .closed }

/-- Accepts nothing more and forgets what is queued. -/
def discard (_ : Inbox E) : Inbox E :=
  { reception := .gone }

@[simp] theorem waiting_push_of_accepting {inbox : Inbox E} (h : inbox.accepting = true)
    (envelope : Envelope E) : (inbox.push envelope).waiting = inbox.waiting ++ [envelope] := by
  simp [push, waiting, h]

@[simp] theorem reception_push (inbox : Inbox E) (envelope : Envelope E) :
    (inbox.push envelope).reception = inbox.reception := by
  unfold push; split <;> rfl

@[simp] theorem accepting_push (inbox : Inbox E) (envelope : Envelope E) :
    (inbox.push envelope).accepting = inbox.accepting := by
  simp [accepting]

/-- Taking an event takes the oldest one and leaves the rest as it was. -/
theorem waiting_of_pop? {inbox rest : Inbox E} {envelope : Envelope E}
    (h : inbox.pop? = some (envelope, rest)) :
    inbox.waiting = envelope :: rest.waiting ∧ rest.reception = inbox.reception := by
  obtain ⟨⟨a, queue⟩, hq, he⟩ := Option.map_eq_some_iff.mp h
  obtain ⟨rfl, rfl⟩ := Prod.mk.inj he
  exact ⟨Queue.toList_of_pop? hq, rfl⟩

@[simp] theorem pop?_eq_none_iff_waiting (inbox : Inbox E) :
    inbox.pop? = none ↔ inbox.waiting = [] := by
  simp [pop?, waiting]

end Inbox

end Macrostep
