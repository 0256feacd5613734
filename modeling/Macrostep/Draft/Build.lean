/-
# Building machines

A draft without faults becomes a definition.  References are replaced by what they refer to, and all
transitions come into one list, each together with where it belongs.  Then they are put in their
places, one after the other.  A draft with faults is rejected with all of them.
-/
import Macrostep.Definition
import Macrostep.Draft.Fault

namespace Macrostep

variable {S C E K O : Type}

/-- The guard that a reference stands for. -/
def Reference.resolveGuard? (registry : Registry C E O) : Reference (Guard C E) → Option (Guard C E)
  | inline guard => some guard
  | named name => registry.guard? name

/-- The action that a reference stands for. -/
def Reference.resolveAction? (registry : Registry C E O) :
    Reference (Action C E O) → Option (Action C E O)
  | inline action => some action
  | named name => registry.action? name

/-- The transition with its references replaced. -/
def TransitionDraft.resolve (t : TransitionDraft S C E O) (registry : Registry C E O) :
    Transition S C E O where
  guard := t.guard.bind (·.resolveGuard? registry)
  actions := t.actions.filterMap (·.resolveAction? registry)
  target := t.target

/-- A transition together with where it belongs. -/
inductive Placement (S C E K O : Type)
  /-- In a state, for a kind of event. -/
  | on (state : S) (kind : K) (t : Transition S C E O)
  /-- In a state, without an event. -/
  | always (state : S) (t : Transition S C E O)
  /-- For a kind of event, in every state. -/
  | shared (kind : K) (t : Transition S C E O)

/-- The transitions of a state, together with where they belong. -/
def StateDraft.placements (d : StateDraft S C E K O) (registry : Registry C E O) :
    List (Placement S C E K O) :=
  d.on.map (fun (kind, t) => .on d.state kind (t.resolve registry)) ++
    d.always.map fun t => .always d.state (t.resolve registry)

namespace Draft

/-- All transitions, together with where they belong. -/
def placements (d : Draft S C E K O) : List (Placement S C E K O) :=
  d.states.flatMap (fun s => s.placements d.registry) ++
    d.shared.map fun (kind, t) => .shared kind (t.resolve d.registry)

/-- The machine without its transitions. -/
def frame (d : Draft S C E K O) : Definition S C E K O where
  id := d.id
  initial := d.initial
  context := d.context
  nodes := d.states.map fun s => (s.state, { effect := s.effect, isFinal := s.isFinal })
  shared := {}

end Draft

variable [DecidableEq S] [DecidableEq K]

/-- The node of a state after something was put in its place. -/
def Node.receive (state : S) (node : Node S C E K O) : Placement S C E K O → Node S C E K O
  | .on state' kind t => if state' = state then { node with on := node.on.add kind t } else node
  | .always state' t =>
    if state' = state then { node with always := node.always ++ [t] } else node
  | .shared _ _ => node

/-- What every state shares after something was put in its place. -/
def EventTable.receive (table : EventTable K (Transition S C E O)) :
    Placement S C E K O → EventTable K (Transition S C E O)
  | .shared kind t => table.add kind t
  | _ => table

/-- A machine after something was put in its place. -/
def Definition.place (d : Definition S C E K O) (p : Placement S C E K O) :
    Definition S C E K O where
  id := d.id
  initial := d.initial
  context := d.context
  nodes := d.nodes.map fun (state, node) => (state, node.receive state p)
  shared := d.shared.receive p

namespace Draft

/-- The machine that a draft without faults describes. -/
def compile (d : Draft S C E K O) : Definition S C E K O :=
  d.placements.foldl Definition.place d.frame

variable [Label S] [Kinded E K]

/-- The machine that a draft describes, or everything that is wrong with it. -/
def build (d : Draft S C E K O) : Except (List Fault) (Definition S C E K O) :=
  if d.faults.isEmpty then .ok d.compile else .error d.faults

/-- A draft is rejected exactly with its faults. -/
theorem build_eq_error_iff (d : Draft S C E K O) (faults : List Fault) :
    d.build = .error faults ↔ faults = d.faults ∧ faults ≠ [] := by
  unfold build
  split
  · next h => simp_all
  · next h =>
    simp only [Except.error.injEq]
    constructor
    · rintro rfl
      simpa using h
    · rintro ⟨rfl, -⟩
      rfl

end Draft

end Macrostep
