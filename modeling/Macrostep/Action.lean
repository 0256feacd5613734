/-
# Guards and actions

A guard is a test of the context and of the event that is being resolved; an eventless transition
has no event.  An action either computes a new context or acts on the world outside.  The actions of
a transition run in order and see the same event; each sees the context that the assignments before
it have left.
-/
import Macrostep.Event

namespace Macrostep

/-- A test of the context and of the event, if there is one. -/
abbrev Guard (C E : Type) := C → Option E → Bool

/-- What a transition does when it is taken. -/
inductive Action (C E O : Type)
  /-- Computes a new context. -/
  | assign (next : C → Option E → C)
  /-- Acts on the world outside, through an outlet. -/
  | exec (run : Outlet → C → Option E → List (Output E O))

namespace Action

variable {C E O : Type}

/-- Queues the event that is computed from the context. -/
def raise (event : C → Option E → E) : Action C E O :=
  .exec fun _ context e => [.send (event context e)]

/-- Whether an action computes a new context. -/
def isAssign : Action C E O → Bool
  | assign _ => true
  | exec _ => false

/-- The context after a list of actions, and what they did outside, in order.  Without an outlet
nothing is done outside. -/
def applyAll (outlet : Option Outlet) (event : Option E) :
    List (Action C E O) → C → C × List (Output E O)
  | [], context => (context, [])
  | assign next :: rest, context => applyAll outlet event rest (next context event)
  | exec run :: rest, context =>
    let done := match outlet with
      | some way => run way context event
      | none => []
    let (final, outputs) := applyAll outlet event rest context
    (final, done ++ outputs)

/-- The context after the assignments of a list of actions, alone. -/
def assigned (event : Option E) (actions : List (Action C E O)) (context : C) : C :=
  actions.foldl
    (fun c action => match action with
      | assign next => next c event
      | exec _ => c)
    context

/-- The new context depends on the assignments alone. -/
theorem applyAll_fst (outlet : Option Outlet) (event : Option E) (actions : List (Action C E O))
    (context : C) : (applyAll outlet event actions context).1 = assigned event actions context := by
  induction actions generalizing context with
  | nil => rfl
  | cons action rest ih =>
    cases action with
    | assign next => simpa [applyAll, assigned] using ih (next context event)
    | exec run => simpa [applyAll, assigned] using ih context

/-- Nothing is done outside without an outlet. -/
theorem applyAll_none_snd (event : Option E) (actions : List (Action C E O)) (context : C) :
    (applyAll none event actions context).2 = [] := by
  induction actions generalizing context with
  | nil => rfl
  | cons action rest ih =>
    cases action with
    | assign next => simpa [applyAll] using ih (next context event)
    | exec run => simpa [applyAll] using ih context

end Action

end Macrostep
