/-
# Drafts of machines

A draft is a machine while it is being declared.  Guards and actions are given inline or by name,
states may be declared in any order, and nothing is checked yet.
-/
import Macrostep.Draft.Registry
import Macrostep.State
import Macrostep.Transition

namespace Macrostep

/-- Something that is given at its place or by the name under which it is registered. -/
inductive Reference (T : Type)
  /-- Given at its place. -/
  | inline (value : T)
  /-- Given by name. -/
  | named (name : String)

/-- A transition while it is being declared. -/
structure TransitionDraft (S C E O : Type) where
  /-- The state to enter. -/
  target : Option S := none
  /-- The test that must hold. -/
  guard : Option (Reference (Guard C E)) := none
  /-- What is done when it is taken. -/
  actions : List (Reference (Action C E O)) := []

namespace TransitionDraft

variable {S C E O : Type}

/-- A transition to a state. -/
def goto (state : S) : TransitionDraft S C E O := { target := some state }

/-- With a guard. -/
def withGuard (t : TransitionDraft S C E O) (guard : Guard C E) : TransitionDraft S C E O :=
  { t with guard := some (.inline guard) }

/-- With the guard of a name. -/
def withGuardNamed (t : TransitionDraft S C E O) (name : String) : TransitionDraft S C E O :=
  { t with guard := some (.named name) }

/-- With one more action. -/
def withAction (t : TransitionDraft S C E O) (action : Action C E O) : TransitionDraft S C E O :=
  { t with actions := t.actions ++ [.inline action] }

/-- With the action of a name added. -/
def withActionNamed (t : TransitionDraft S C E O) (name : String) : TransitionDraft S C E O :=
  { t with actions := t.actions ++ [.named name] }

/-- With one more assignment. -/
def assign (t : TransitionDraft S C E O) (next : C → Option E → C) : TransitionDraft S C E O :=
  t.withAction (.assign next)

end TransitionDraft

/-- A state while it is being declared. -/
structure StateDraft (S C E K O : Type) where
  /-- The state. -/
  state : S
  /-- The transitions that events lead to, in the order of their declaration. -/
  on : List (K × TransitionDraft S C E O) := []
  /-- The transitions that need no event. -/
  always : List (TransitionDraft S C E O) := []
  /-- The effect that lives as long as the state. -/
  effect : Option (Effect C E O) := none
  /-- Whether the state is final. -/
  isFinal : Bool

namespace StateDraft

variable {S C E K O : Type}

/-- A state with nothing declared. -/
def new [Label S] (state : S) : StateDraft S C E K O := { state, isFinal := Label.isFinal state }

/-- With one more transition for a kind of event. -/
def onKind (d : StateDraft S C E K O) (kind : K) (t : TransitionDraft S C E O) :
    StateDraft S C E K O :=
  { d with on := d.on ++ [(kind, t)] }

/-- With one more transition that needs no event. -/
def eventless (d : StateDraft S C E K O) (t : TransitionDraft S C E O) : StateDraft S C E K O :=
  { d with always := d.always ++ [t] }

/-- With an effect in place of the one before. -/
def invoke (d : StateDraft S C E K O) (effect : Effect C E O) : StateDraft S C E K O :=
  { d with effect := some effect }

/-- Marked as final. -/
def final (d : StateDraft S C E K O) : StateDraft S C E K O := { d with isFinal := true }

/-- Whether anything is declared that a final state must not have. -/
def isActive (d : StateDraft S C E K O) : Bool :=
  !d.on.isEmpty || !d.always.isEmpty || d.effect.isSome

end StateDraft

/-- A machine while it is being declared. -/
structure Draft (S C E K O : Type) where
  /-- The name of the machine. -/
  id : String := "machine"
  /-- The state in which it begins. -/
  initial : S
  /-- The context with which it begins. -/
  context : C
  /-- The declarations of states, in order, repeated ones included. -/
  states : List (StateDraft S C E K O) := []
  /-- The transitions that every state shares, in the order of their declaration. -/
  shared : List (K × TransitionDraft S C E O) := []
  /-- The guards and actions that can be given by name. -/
  registry : Registry C E O := {}

namespace Draft

variable {S C E K O : Type}

/-- With a name. -/
def withId (d : Draft S C E K O) (id : String) : Draft S C E K O := { d with id }

/-- With the declaration of a state. -/
def state [Label S] (d : Draft S C E K O) (state : S)
    (configure : StateDraft S C E K O → StateDraft S C E K O := fun s => s) : Draft S C E K O :=
  { d with states := d.states ++ [configure (.new state)] }

/-- With the declaration of a final state. -/
def finalState [Label S] (d : Draft S C E K O) (state : S) : Draft S C E K O :=
  d.state state StateDraft.final

/-- With a transition that every state shares. -/
def on (d : Draft S C E K O) (kind : K) (t : TransitionDraft S C E O) : Draft S C E K O :=
  { d with shared := d.shared ++ [(kind, t)] }

/-- With a guard registered. -/
def guard (d : Draft S C E K O) (name : String) (guard : Guard C E) : Draft S C E K O :=
  { d with registry := d.registry.withGuard name guard }

/-- With an action registered. -/
def action (d : Draft S C E K O) (name : String) (action : Action C E O) : Draft S C E K O :=
  { d with registry := d.registry.withAction name action }

/-- With everything registered that `registry` holds. -/
def implementations (d : Draft S C E K O) (registry : Registry C E O) : Draft S C E K O :=
  { d with registry := d.registry.extend registry }

end Draft

end Macrostep
