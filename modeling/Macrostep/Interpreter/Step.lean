/-
# Transitions of a running machine

Taking one transition: its actions run, the effect of the state is stopped, the entry is recorded,
and the effect of the new state is started.  A transition without a target only changes the context.
Eventless transitions are taken until none is enabled, at most as many as the options allow.
-/
import Macrostep.Interpreter.Basic

namespace Macrostep

open Time

namespace Interpreter

variable {S C E K O : Type} [DecidableEq S] [Label S] [DecidableEq K] [Kinded E K]

/-- Starts the effect of the current state, if there is one.  Every attempt has a number of its
own; a failure becomes a warning. -/
def launch (it : Interpreter S C E K O) : Interpreter S C E K O :=
  match it.definition.effect? it.state with
  | none => it
  | some effect =>
    let generation := it.generation + 1
    let origin := Origin.effect generation
    let startup := effect.start ⟨⟨origin, it.inbox.accepting⟩, it.timers⟩ it.context
    let it := { it with generation }.log (.launching it.state it.context generation)
    let it := it.performAll origin startup.outputs
    match startup.result with
    | .ok handle =>
      let due := it.now + (handle.ticker.map Ticker.period).getD 0
      { it with effect := some ⟨generation, handle, due⟩ }.log (.launched handle.id generation)
    | .error error =>
      { it with warnings := it.warnings ++ [error] }.log (.launchFailed error)

/-- Stops the active effect, if there is one, and tells how its cleanup failed, if it did. -/
def release (it : Interpreter S C E K O) : Interpreter S C E K O × Option EffectError :=
  match it.effect with
  | none => (it, none)
  | some active =>
    let ending := active.handle.ending it.inbox.accepting
    let it := { it with effect := none }.log (.cleaned active.generation)
    (it.performAll (.effect active.generation) ending.outputs,
      ending.failure.map (EffectError.cleanupFailed active.handle.id))

/-- Stops the active effect on the way out of a state; a failure becomes a warning. -/
def leave (it : Interpreter S C E K O) : Interpreter S C E K O :=
  match it.release with
  | (it, none) => it
  | (it, some error) =>
    { it with warnings := it.warnings ++ [error] }.log (.cleanupFailed error)

/-- Records the way to a state. -/
def enter (it : Interpreter S C E K O) (target : S) (event : Option E) : Interpreter S C E K O :=
  let it := it.log (.transitioned it.state target event)
  if it.options.recordHistory then
    let entry : Entry S :=
      { source := it.state, target, event := event.map kindNameOf, time := .ofNanos it.now }
    { it with history := it.history.push entry it.options.historyLimit }
  else it

/-- Takes a transition. -/
def take (it : Interpreter S C E K O) (t : Transition S C E O) (event : Option E) :
    Interpreter S C E K O :=
  let (context, outputs) := Action.applyAll (some it.outlet) event t.actions it.context
  let it := it.performAll .external outputs
  match t.target with
  | none => { it with snapshot := { it.snapshot with context } }
  | some target =>
    let it := it.leave.enter target event
    { it with snapshot := ⟨target, context, it.definition.isFinal target⟩ }.launch

/-- Takes eventless transitions until none is enabled, at most `steps` of them; fails if one is
still enabled then. -/
def settleWithin : Nat → Interpreter S C E K O →
    Interpreter S C E K O × Except InterpreterError Unit
  | steps, it =>
    match it.definition.selectEventless it.state it.context, steps with
    | none, _ => (it, .ok ())
    | some _, 0 =>
      let most := it.options.maxEventlessSteps
      (it.log (.unsettled it.state most),
        .error (.nonTerminatingChain (Label.name it.state) most))
    | some t, steps + 1 => settleWithin steps (it.take t none)

/-- Takes eventless transitions until none is enabled, as many as the options allow. -/
def settle (it : Interpreter S C E K O) : Interpreter S C E K O × Except InterpreterError Unit :=
  it.settleWithin it.options.maxEventlessSteps

end Interpreter

end Macrostep
