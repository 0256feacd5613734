/-
# Events and envelopes

An event has a kind, by which transitions are looked up.  In the inbox it travels in an envelope
that says where it came from: from a caller, or from the effect with a given generation number.
-/

namespace Macrostep

/-- Events of type `E` have kinds of type `K`, each with a name. -/
class Kinded (E : Type) (K : outParam Type) where
  /-- The kind by which transitions are looked up. -/
  kind : E → K
  /-- The name under which a kind is recorded. -/
  kindName : K → String

/-- The name of the kind of an event. -/
def kindNameOf {E K : Type} [Kinded E K] (event : E) : String :=
  Kinded.kindName E (Kinded.kind event)

/-- Where a queued event came from. -/
inductive Origin
  /-- Sent by a caller, an action or an observer. -/
  | external
  /-- Sent by the effect that was started with this generation number. -/
  | effect (generation : Nat)
deriving DecidableEq

/-- An event that waits in an inbox. -/
structure Envelope (E : Type) where
  /-- The event. -/
  event : E
  /-- Where it came from. -/
  origin : Origin

/-- What a piece of user code is told about the way by which its events leave. -/
structure Outlet where
  /-- The origin that its events will carry. -/
  origin : Origin
  /-- Whether the inbox behind it still takes events. -/
  accepting : Bool

/-- What user code does beside computing a value.  `E` is the type of events and `O` the type of
notes. -/
inductive Output (E O : Type)
  /-- It queues an event. -/
  | send (event : E)
  /-- It leaves a note in the journal. -/
  | note (content : O)
  /-- It hands its outlet to someone outside, who may send through it from then on. -/
  | share

namespace Output

/-- The events that a list of outputs queues, in order. -/
def events {E O : Type} (outputs : List (Output E O)) : List E :=
  outputs.filterMap fun
    | send event => some event
    | _ => none

end Output

end Macrostep
