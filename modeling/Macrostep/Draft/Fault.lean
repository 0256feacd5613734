/-
# Faults of drafts

Everything that can be wrong with a draft, found in one pass and listed in order: states declared
again, an undeclared initial state, then state by state in the order of declaration, and the shared
transitions last.  Within one transition the target comes first, then the guard, then the actions.
-/
import Macrostep.Draft.Basic

namespace Macrostep

/-- Where a transition is declared. -/
inductive Scope
  /-- In a state, for a kind of event. -/
  | onKind (state kind : String)
  /-- In a state, without an event. -/
  | always (state : String)
  /-- For a kind of event, in every state. -/
  | shared (kind : String)
deriving DecidableEq

/-- A scope as messages name it. -/
def Scope.text : Scope → String
  | onKind state kind => s!"state '{state}' on {kind}"
  | always state => s!"state '{state}' always"
  | shared kind => s!"global on {kind}"

/-- Something that is wrong with a draft. -/
inductive Fault
  /-- The machine begins in a state that is not declared. -/
  | unknownInitialState (state : String)
  /-- A transition leads to a state that is not declared. -/
  | unknownTarget (scope : Scope) (target : String)
  /-- A transition names a guard that is not registered. -/
  | unknownGuard (scope : Scope) (name : String)
  /-- A transition names an action that is not registered. -/
  | unknownAction (scope : Scope) (name : String)
  /-- A state is declared again. -/
  | duplicateState (state : String)
  /-- A final state has transitions or an effect. -/
  | finalStateHasTransitions (state : String)
deriving DecidableEq

/-- The wording of a fault. -/
def Fault.message : Fault → String
  | unknownInitialState state => s!"Initial state '{state}' is not declared"
  | unknownTarget scope target =>
    s!"Transition in {scope.text} targets undeclared state '{target}'"
  | unknownGuard scope name =>
    s!"Guard '{name}' referenced in {scope.text} has no implementation"
  | unknownAction scope name =>
    s!"Action '{name}' referenced in {scope.text} has no implementation"
  | duplicateState state => s!"State '{state}' is declared more than once"
  | finalStateHasTransitions state =>
    s!"Final state '{state}' cannot declare transitions or effects"

/-- The wording of a list of faults. -/
def Fault.summary (faults : List Fault) : String :=
  "invalid machine definition: " ++ "; ".intercalate (faults.map Fault.message)

variable {S C E K O : Type} [DecidableEq S] [Label S]

namespace TransitionDraft

/-- The fault of the target: it is not among the declared states. -/
def targetFaults (t : TransitionDraft S C E O) (scope : Scope) (declared : List S) : List Fault :=
  match t.target with
  | some target => if target ∈ declared then [] else [.unknownTarget scope (Label.name target)]
  | none => []

/-- The fault of the guard: its name is not registered. -/
def guardFaults (t : TransitionDraft S C E O) (scope : Scope) (registry : Registry C E O) :
    List Fault :=
  match t.guard with
  | some (.named name) =>
    if (registry.guard? name).isSome then [] else [.unknownGuard scope name]
  | _ => []

/-- The faults of the actions: their names are not registered. -/
def actionFaults (t : TransitionDraft S C E O) (scope : Scope) (registry : Registry C E O) :
    List Fault :=
  t.actions.filterMap fun
    | .named name => if (registry.action? name).isSome then none else some (.unknownAction scope name)
    | .inline _ => none

/-- The faults of a transition. -/
def faults (t : TransitionDraft S C E O) (scope : Scope) (declared : List S)
    (registry : Registry C E O) : List Fault :=
  t.targetFaults scope declared ++ t.guardFaults scope registry ++ t.actionFaults scope registry

end TransitionDraft

namespace StateDraft

/-- The faults of the declaration of a state.  `kindName` names a kind of event. -/
def faults (d : StateDraft S C E K O) (kindName : K → String) (declared : List S)
    (registry : Registry C E O) : List Fault :=
  let name := Label.name d.state
  (if d.isFinal && d.isActive then [.finalStateHasTransitions name] else []) ++
    d.on.flatMap (fun (kind, t) => t.faults (.onKind name (kindName kind)) declared registry) ++
    d.always.flatMap fun t => t.faults (.always name) declared registry

end StateDraft

/-- One entry for each state of a list that stands in it before. -/
def repeated (seen : List S) : List S → List S
  | [] => []
  | s :: rest => if s ∈ seen then s :: repeated seen rest else repeated (s :: seen) rest

namespace Draft

variable [Kinded E K]

/-- The states that are declared, in order, repeated ones included. -/
def declared (d : Draft S C E K O) : List S := d.states.map StateDraft.state

/-- The faults of a draft. -/
def faults (d : Draft S C E K O) : List Fault :=
  (repeated [] d.declared).map (fun s => .duplicateState (Label.name s)) ++
    (if d.initial ∈ d.declared then [] else [.unknownInitialState (Label.name d.initial)]) ++
    d.states.flatMap (fun s => s.faults (Kinded.kindName E) d.declared d.registry) ++
    d.shared.flatMap fun (kind, t) =>
      t.faults (.shared (Kinded.kindName E kind)) d.declared d.registry

end Draft

end Macrostep
