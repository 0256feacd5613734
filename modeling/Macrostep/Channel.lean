/-
# Channels

An inbox with the senders in front of it.  Senders are numbered in the order in which they were
made and can be dropped one by one.  A receiver that finds nothing learns whether something can
still come.
-/
import Macrostep.Inbox

namespace Macrostep

/-- What a receiver finds. -/
inductive Receipt (E : Type)
  /-- The oldest event. -/
  | event (envelope : Envelope E)
  /-- Nothing for now. -/
  | empty
  /-- Nothing, and nothing will come. -/
  | disconnected
  /-- There is no receiver any more. -/
  | gone

/-- Takes the oldest event from an inbox.  `connected` says whether any sender is left. -/
def Inbox.receive {E : Type} (inbox : Inbox E) (connected : Bool) : Inbox E × Receipt E :=
  if inbox.reception = .gone then (inbox, .gone)
  else
    match inbox.pop? with
    | some (envelope, inbox) => (inbox, .event envelope)
    | none => (inbox, if inbox.accepting && connected then .empty else .disconnected)

/-- An inbox with the senders in front of it. -/
structure Channel (E : Type) where
  /-- The inbox. -/
  inbox : Inbox E := {}
  /-- For each sender whether it is still there. -/
  senders : List Bool := [true]

namespace Channel

variable {E : Type}

/-- Whether a sender is there. -/
def has (channel : Channel E) (sender : Nat) : Bool := channel.senders.getD sender false

/-- Whether any sender is there. -/
def isConnected (channel : Channel E) : Bool := channel.senders.any id

/-- Sends an event and tells whether it was accepted; `none` if the sender is not there. -/
def send (channel : Channel E) (sender : Nat) (event : E) : Channel E × Option Bool :=
  if channel.has sender then
    ({ channel with inbox := channel.inbox.push ⟨event, .external⟩ }, some channel.inbox.accepting)
  else (channel, none)

/-- Makes another sender and tells its number; a copy of one that is not there is not there
either. -/
def clone (channel : Channel E) (sender : Nat) : Channel E × Nat :=
  ({ channel with senders := channel.senders ++ [channel.has sender] }, channel.senders.length)

/-- Drops a sender and tells whether it was there. -/
def dropSender (channel : Channel E) (sender : Nat) : Channel E × Bool :=
  ({ channel with senders := channel.senders.set sender false }, channel.has sender)

/-- Whether a sender would be refused; `none` if it is not there. -/
def isClosed (channel : Channel E) (sender : Nat) : Option Bool :=
  if channel.has sender then some !channel.inbox.accepting else none

/-- The origin of what a sender sends; `none` if it is not there. -/
def origin? (channel : Channel E) (sender : Nat) : Option Origin :=
  if channel.has sender then some .external else none

/-- Takes the oldest event. -/
def receive (channel : Channel E) : Channel E × Receipt E :=
  let (inbox, receipt) := channel.inbox.receive channel.isConnected
  ({ channel with inbox }, receipt)

/-- Closes the inbox. -/
def close (channel : Channel E) : Channel E := { channel with inbox := channel.inbox.close }

/-- Drops the receiver and tells whether it was there. -/
def dropReceiver (channel : Channel E) : Channel E × Bool :=
  ({ channel with inbox := channel.inbox.discard }, channel.inbox.reception ≠ .gone)

end Channel

end Macrostep
