/-
# Machine definitions

A definition is a finished machine: its nodes, the handlers that every state shares, and where it
begins.  Selection is pure.  A local candidate is asked before a shared one, and the first that is
enabled wins; a final state accepts nothing.
-/
import Macrostep.Snapshot
import Macrostep.State
import Macrostep.Transition

namespace Macrostep

/-- A finished machine. -/
structure Definition (S C E K O : Type) where
  /-- The name of the machine. -/
  id : String
  /-- The state in which it begins. -/
  initial : S
  /-- The context with which it begins. -/
  context : C
  /-- The nodes of the declared states. -/
  nodes : List (S × Node S C E K O)
  /-- The transitions that every state shares. -/
  shared : EventTable K (Transition S C E O)

namespace Definition

variable {S C E K O : Type} [DecidableEq S] [DecidableEq K] [Kinded E K]

/-- The node of a state, if it is declared. -/
def node? (d : Definition S C E K O) (state : S) : Option (Node S C E K O) :=
  (d.nodes.find? fun entry => entry.1 = state).map Prod.snd

/-- The declared states. -/
def states (d : Definition S C E K O) : List S := d.nodes.map Prod.fst

/-- Whether a state is declared. -/
def contains (d : Definition S C E K O) (state : S) : Bool := (d.node? state).isSome

/-- Whether a state is final. -/
def isFinal (d : Definition S C E K O) (state : S) : Bool :=
  (d.node? state).any Node.isFinal

/-- The effect that a state invokes. -/
def effect? (d : Definition S C E K O) (state : S) : Option (Effect C E O) :=
  (d.node? state).bind Node.effect

/-- The position in which a machine begins. -/
def start (d : Definition S C E K O) : Snapshot S C :=
  { state := d.initial, context := d.context, done := d.isFinal d.initial }

/-- The transition that an event leads to. -/
def select (d : Definition S C E K O) (state : S) (context : C) (event : E) :
    Option (Transition S C E O) := do
  let node ← d.node? state
  if node.isFinal then none
  else
    let kind := Kinded.kind event
    (node.on.candidates kind ++ d.shared.candidates kind).find? (·.isEnabled context (some event))

/-- The transition that is due without an event. -/
def selectEventless (d : Definition S C E K O) (state : S) (context : C) :
    Option (Transition S C E O) := do
  let node ← d.node? state
  node.always.find? (·.isEnabled context none)

/-- Whether an event would lead to a transition. -/
def accepts (d : Definition S C E K O) (snapshot : Snapshot S C) (event : E) : Bool :=
  (d.select snapshot.state snapshot.context event).isSome

/-- The position that a transition leads to: the assignments are made, and the target is entered, if
there is one.  Nothing is done outside. -/
def apply (d : Definition S C E K O) (t : Transition S C E O) (event : Option E)
    (snapshot : Snapshot S C) : Snapshot S C :=
  let state := t.target.getD snapshot.state
  { state, context := (Action.applyAll none event t.actions snapshot.context).1
    done := d.isFinal state }

/-- The position that an event leads to in one step, without the eventless transitions that may
follow; `none` if the event is not accepted. -/
def transition (d : Definition S C E K O) (snapshot : Snapshot S C) (event : E) :
    Option (Snapshot S C) :=
  (d.select snapshot.state snapshot.context event).map fun t => d.apply t (some event) snapshot

end Definition

end Macrostep
