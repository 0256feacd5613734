/-
# What a list of actions sees and does

The actions of a transition run in order.  An assignment leaves a new context to those behind it; an
action that acts on the world outside leaves the context as it is, whatever it does.  So the context
at the end is that of the assignments alone (`Action.thread`), with an outlet and without one, and
an action sees the context of the assignments in front of it and the event that all of them see
(`Action.sights`).

That every action runs once is said by a tracer: if each action that acts only notes where it stands
and what it sees (`Action.traced`), then the notes are the sights, in order and each of them once.
In a running machine everything that is sent that way is queued behind what waits
(`Interpreter.actions_thread_context`).
-/
import Mathlib.Data.List.Range
import Macrostep.Proofs.NoQueueing

namespace Macrostep

open Occurrence

namespace Action

variable {C E O : Type}

/-- The assignments of a list of actions, alone and in order. -/
def assignments (actions : List (Action C E O)) : List (C → Option E → C) :=
  actions.filterMap fun
    | assign next => some next
    | exec _ => none

/-- The context after assignments that were made in order, all with the same event. -/
def thread (event : Option E) (nexts : List (C → Option E → C)) (context : C) : C :=
  nexts.foldl (fun c next => next c event) context

/-- What an action does outside that sees a context. -/
def outputs (outlet : Outlet) (context : C) (event : Option E) : Action C E O → List (Output E O)
  | assign _ => []
  | exec run => run outlet context event

/-- The place of an action in a list, and what it sees there: the context that the assignments in
front of it have left, and the event.  An assignment does not count. -/
def sight? (event : Option E) (actions : List (Action C E O)) (context : C) (i : Nat) :
    Option (Nat × C × Option E) :=
  match actions[i]? with
  | some (exec _) => some (i, thread event (assignments (actions.take i)) context, event)
  | _ => none

/-- What the actions of a list see that act on the world outside, in order. -/
def sights (event : Option E) (actions : List (Action C E O)) (context : C) :
    List (Nat × C × Option E) :=
  (List.range actions.length).filterMap (sight? event actions context)

/-- What the action at a place does outside that sees a context. -/
def outputsAt (outlet : Outlet) (actions : List (Action C E O)) :
    Nat × C × Option E → List (Output E O)
  | (i, context, event) => actions[i]?.elim [] (outputs outlet context event)

/-- The action that makes the same assignment, or notes where it stands and what it sees instead of
acting. -/
def traced (i : Nat) : Action C E O → Action C E (Nat × C × Option E)
  | assign next => assign next
  | exec _ => exec fun _ context event => [.note (i, context, event)]

/-- The same sight some places further on. -/
def shifted (n : Nat) : Nat × C × Option E → Nat × C × Option E
  | (i, context, event) => (i + n, context, event)

lemma assigned_eq_thread (event : Option E) (actions : List (Action C E O)) (context : C) :
    assigned event actions context = thread event (assignments actions) context := by
  induction actions generalizing context with
  | nil => rfl
  | cons action actions ih =>
    cases action with
    | assign next => exact ih (next context event)
    | exec run => exact ih context

section

variable {event : Option E} {actions : List (Action C E O)} {context : C}

/-- Behind an action the others see what it leaves of the context, one place further on. -/
lemma sights_cons (action : Action C E O) :
    sights event (action :: actions) context =
      (sight? event (action :: actions) context 0).toList ++
        (sights event actions (assigned event [action] context)).map (shifted 1) := by
  have hbehind (i : Nat) : sight? event (action :: actions) context (i + 1) =
      (sight? event actions (assigned event [action] context) i).map (shifted 1) := by
    simp only [sight?, List.getElem?_cons_succ, List.take_succ_cons]
    rcases actions[i]? with _ | _ | _
    · rfl
    · rfl
    · cases action <;> rfl
  rw [sights, List.length_cons, List.range_succ_eq_map, List.filterMap_cons, List.filterMap_map,
    sights, List.map_filterMap]
  simp only [Function.comp_def, Nat.succ_eq_add_one, hbehind]
  cases sight? event (action :: actions) context 0 <;> rfl

/-- What a list of actions does outside is what each of them does that acts, in order, with what it
sees. -/
theorem applyAll_snd (outlet : Outlet) (event : Option E) (actions : List (Action C E O))
    (context : C) :
    (applyAll (some outlet) event actions context).2 =
      (sights event actions context).flatMap (outputsAt outlet actions) := by
  induction actions generalizing context with
  | nil => rfl
  | cons action actions ih =>
    rw [sights_cons, List.flatMap_append, List.flatMap_map]
    cases action with
    | assign next => exact ih (next context event)
    | exec run =>
      have hfirst : (sight? event (exec run :: actions) context 0).toList.flatMap
          (outputsAt outlet (exec run :: actions)) = run outlet context event := by
        exact List.append_nil _
      rw [hfirst]
      exact congrArg (run outlet context event ++ ·) (ih context)

/-- Each action that acts is run once, in its turn. -/
theorem notes_traced (outlet : Outlet) (event : Option E) (actions : List (Action C E O))
    (context : C) (n : Nat) :
    Output.notes (applyAll (some outlet) event (actions.mapIdx fun i => traced (i + n)) context).2 =
      (sights event actions context).map (shifted n) := by
  induction actions generalizing context n with
  | nil => rfl
  | cons action actions ih =>
    have hnext : (fun i => traced (i + 1 + n)) =
        fun i => (traced (i + (n + 1)) : Action C E O → _) := by
      funext i
      congr 1
      omega
    have hshift : shifted n ∘ shifted 1 = shifted (C := C) (E := E) (n + 1) := by
      funext ⟨i, c, e⟩
      simp only [shifted, Function.comp_apply]
      congr 1
      omega
    rw [sights_cons, List.map_append, List.map_map, hshift, List.mapIdx_cons, hnext]
    cases action with
    | assign next => exact ih (next context event) (n + 1)
    | exec run => exact congrArg ((0 + n, context, event) :: ·) (ih context (n + 1))

end

end Action

namespace Interpreter

variable {S C E K O : Type} {it it' it'' : Interpreter S C E K O}

/-! ## What is queued on the way -/

/-- While the inbox accepts, every event that is sent is queued at its end. -/
lemma waiting_performAll (h : it.inbox.accepting = true) (origin : Origin)
    (outputs : List (Output E O)) :
    (it.performAll origin outputs).inbox.waiting =
      it.inbox.waiting ++ (Output.events outputs).map fun event => ⟨event, origin⟩ := by
  have hadds := performAll_adds it origin outputs
  rw [hadds.waiting, h, List.filterMap_map, Output.events, List.map_filterMap]
  congr 2
  funext output
  cases output <;> rfl

/-- What comes to the inbox comes from effects, and nothing is taken. -/
def Gathers (it it' : Interpreter S C E K O) : Prop :=
  ∃ later, (∀ envelope ∈ later, envelope.origin ≠ .external) ∧
    it'.inbox.waiting = it.inbox.waiting ++ later

namespace Gathers

lemma of_inbox (h : it'.inbox = it.inbox) : it.Gathers it' :=
  ⟨[], by simp, by rw [h, List.append_nil]⟩

lemma trans (h : it.Gathers it') (h' : it'.Gathers it'') : it.Gathers it'' := by
  obtain ⟨later, horigin, hwaiting⟩ := h
  obtain ⟨more, horigin', hwaiting'⟩ := h'
  refine ⟨later ++ more, List.forall_mem_append.mpr ⟨horigin, horigin'⟩, ?_⟩
  rw [hwaiting', hwaiting, List.append_assoc]

lemma performAll (it : Interpreter S C E K O) (generation : Nat) (outputs : List (Output E O)) :
    it.Gathers (it.performAll (.effect generation) outputs) := by
  have hadds := performAll_adds it (.effect generation) outputs
  refine ⟨_, ?_, hadds.waiting⟩
  intro envelope henvelope
  obtain ⟨o, ho, haccepted⟩ := List.mem_filterMap.mp henvelope
  obtain ⟨output, -, rfl⟩ := List.mem_map.mp ho
  cases output with
  | send event =>
    simp only [Output.report] at haccepted
    split at haccepted
    · obtain rfl := Option.some.inj haccepted
      intro horigin
      cases horigin
    · cases haccepted
  | note content => cases haccepted
  | share => cases haccepted

lemma leave (it : Interpreter S C E K O) : it.Gathers it.leave := by
  have hrelease : it.Gathers it.release.1 := by
    cases hactive : it.effect with
    | none =>
      rw [release_of_none hactive]
      exact .of_inbox rfl
    | some active =>
      rw [release_of_some hactive]
      exact (of_inbox rfl).trans (performAll _ _ _)
  refine hrelease.trans (.of_inbox ?_)
  unfold Interpreter.leave
  rcases it.release with ⟨last, _ | error⟩ <;> rfl

lemma launch [DecidableEq S] (it : Interpreter S C E K O) : it.Gathers it.launch := by
  cases heffect : it.definition.effect? it.state with
  | none =>
    rw [launch_of_none heffect]
    exact .of_inbox rfl
  | some effect =>
    rw [launch_of_some heffect]
    have hperformed : it.Gathers (it.attempting.performAll (.effect (it.generation + 1))
        (startup effect it).outputs) := (of_inbox rfl).trans (performAll _ _ _)
    refine hperformed.trans (.of_inbox ?_)
    cases (startup effect it).result <;> rfl

end Gathers

/-! ## The law of actions -/

open Macrostep.Action

variable [DecidableEq S] [Kinded E K]

/-- Taking a transition queues what its actions send; only the effects that it stops and starts may
queue something behind that. -/
lemma take_threads (h : it.inbox.accepting = true) (t : Transition S C E O) (event : Option E) :
    let sent := (sights event t.actions it.context).flatMap fun sight =>
      Output.events (outputsAt it.outlet t.actions sight)
    (it.take t event).context = thread event (assignments t.actions) it.context ∧
      ∃ later, (∀ envelope ∈ later, envelope.origin ≠ .external) ∧
        (t.target = none → later = []) ∧
        (it.take t event).inbox.waiting =
          it.inbox.waiting ++ (sent.map fun event => ⟨event, .external⟩) ++ later := by
  intro sent
  have hfst := (applyAll_fst (some it.outlet) event t.actions it.context).trans
    (assigned_eq_thread ..)
  have hevents : Output.events (applyAll (some it.outlet) event t.actions it.context).2 = sent := by
    rw [Action.applyAll_snd]
    exact List.filterMap_flatMap ..
  have hperformed := waiting_performAll h .external
    (applyAll (some it.outlet) event t.actions it.context).2
  rw [hevents] at hperformed
  unfold take
  generalize applyAll (some it.outlet) event t.actions it.context = applied at hfst hperformed
  obtain ⟨context, outputs⟩ := applied
  dsimp only at hfst hperformed ⊢
  cases htarget : t.target with
  | none => exact ⟨hfst, [], by simp, fun _ => rfl, by rw [List.append_nil]; exact hperformed⟩
  | some target =>
    let performed := it.performAll .external outputs
    let entered := performed.leave.enter target event
    let arrived : Interpreter S C E K O :=
      { entered with snapshot := ⟨target, context, entered.definition.isFinal target⟩ }
    have harrived : performed.leave.Gathers arrived := by
      refine .of_inbox ?_
      change (performed.leave.enter target event).inbox = performed.leave.inbox
      rw [enter_eq]
    obtain ⟨later, horigin, hwaiting⟩ :=
      ((Gathers.leave performed).trans harrived).trans (Gathers.launch arrived)
    obtain ⟨begun, hlaunch, -⟩ := launch_spec arrived
    have hcontext : arrived.launch.context = context :=
      congrArg Snapshot.context hlaunch.stays.snapshot
    exact ⟨hcontext.trans hfst, later, horigin, nofun, by rw [← hperformed]; exact hwaiting⟩

/-- **Actions thread the context past what they do outside.**  For every list of actions, whatever
they do: the context at the end is that of the assignments alone, with an outlet and without one.
Without an outlet nothing is done outside.  With one, each action that acts is run once, in order;
it sees the context of the assignments in front of it and the original event, and what is done
outside is what they do, one after the other.  When a running machine takes a transition with these
actions, what they send is queued in this order behind what waits, as coming from outside, and only
effects may queue something behind it. -/
theorem actions_thread_context (actions : List (Action C E O)) (event : Option E) (context : C) :
    (∀ way, (applyAll way event actions context).1 =
      thread event (assignments actions) context) ∧
    (applyAll none event actions context).2 = [] ∧
    (∀ outlet, Output.notes (applyAll (some outlet) event (actions.mapIdx traced) context).2 =
      sights event actions context) ∧
    (∀ outlet, (applyAll (some outlet) event actions context).2 =
      (sights event actions context).flatMap (outputsAt outlet actions)) ∧
    ∀ (it : Interpreter S C E K O) (t : Transition S C E O),
      it.inbox.accepting = true → t.actions = actions → it.context = context →
      let sent := (sights event actions context).flatMap fun sight =>
        Output.events (outputsAt it.outlet actions sight)
      (it.take t event).context = thread event (assignments actions) context ∧
        ∃ later, (∀ envelope ∈ later, envelope.origin ≠ .external) ∧
          (t.target = none → later = []) ∧
          (it.take t event).inbox.waiting =
            it.inbox.waiting ++ (sent.map fun event => ⟨event, .external⟩) ++ later := by
  refine ⟨fun way => ?_, applyAll_none_snd event actions context, fun outlet => ?_,
    fun outlet => Action.applyAll_snd outlet event actions context, ?_⟩
  · rw [applyAll_fst, assigned_eq_thread]
  · have hnotes := notes_traced outlet event actions context 0
    have hshifted : (shifted 0 : Nat × C × Option E → _) = id := rfl
    rw [hshifted, List.map_id] at hnotes
    exact hnotes
  · rintro it t haccepting rfl rfl
    exact take_threads haccepting t event

end Interpreter

namespace Lamp

/-- The transition that turns the lamp on by hand: it counts and queues an event, twice. -/
def forced : Transition State Nat Event Unit where
  guard := none
  actions :=
    [.assign fun count _ => count + 1, .raise fun count _ => if count = 1 then .press else .beat,
      .assign fun count _ => count * 7, .raise fun count _ => if count = 1 then .press else .beat]
  target := some .on

open Interpreter in
/-- A new lamp is forced on: the first of the two events is queued by who counts one, the second one
by who counts seven. -/
theorem actions_thread_context_lamp :
    ((Interpreter.new lamp).take forced none).context = 7 ∧
      ∃ later, (∀ envelope ∈ later, envelope.origin ≠ .external) ∧
        ((Interpreter.new lamp).take forced none).inbox.waiting =
          [⟨.press, .external⟩, ⟨.beat, .external⟩] ++ later := by
  obtain ⟨-, -, -, -, htake⟩ :=
    actions_thread_context (S := State) (K := Event) forced.actions none 0
  obtain ⟨hcontext, later, horigin, -, hwaiting⟩ := htake (Interpreter.new lamp) forced rfl rfl rfl
  exact ⟨hcontext, later, horigin, hwaiting⟩

end Lamp

end Macrostep
