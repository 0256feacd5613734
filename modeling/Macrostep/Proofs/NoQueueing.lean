/-
# Machines that queue nothing

An action may queue an event for the machine itself.  If no action of a machine does
(`Definition.Tacit`), its effects are silent and its observers mute, then a machine that answers an
input leaves the inbox as it was (`Interpreter.Reticent`).

No move looks at what waits in the inbox.  If it queues nothing either, what waits may be put aside
(`Interpreter.cleared`): it does the same as it would do while nothing waits, and afterwards there
waits what waited before (`Interpreter.Indifferent.cleared`).
-/
import Macrostep.Proofs.InboxIndependence
import Macrostep.Proofs.Observers
import Macrostep.Proofs.SilentMachines

namespace Macrostep

open Occurrence

/-! ## Machines that queue nothing -/

section

variable {S C E K O : Type}

/-- A transition none of whose actions queues an event. -/
def Transition.Tacit (t : Transition S C E O) : Prop :=
  ∀ run, .exec run ∈ t.actions →
    ∀ outlet context event, Output.events (run outlet context event) = []

/-- A machine whose transitions queue no events. -/
structure Definition.Tacit [DecidableEq S] [DecidableEq K] [Kinded E K]
    (d : Definition S C E K O) : Prop where
  select {state : S} {context : C} {event : E} {t : Transition S C E O}
    (hselect : d.select state context event = some t) : t.Tacit
  selectEventless {state : S} {context : C} {t : Transition S C E O}
    (hselect : d.selectEventless state context = some t) : t.Tacit

lemma Output.events_append (outputs more : List (Output E O)) :
    Output.events (outputs ++ more) = Output.events outputs ++ Output.events more :=
  List.filterMap_append

/-- What the actions of such a transition do outside queues nothing. -/
lemma Transition.Tacit.events {t : Transition S C E O} (h : t.Tacit) (outlet : Outlet)
    (event : Option E) (context : C) :
    Output.events (Action.applyAll (some outlet) event t.actions context).2 = [] := by
  rw [Transition.Tacit] at h
  generalize t.actions = actions at h
  induction actions generalizing context with
  | nil => rfl
  | cons action actions ih =>
    have hrest (context : C) := ih context fun run hrun => h run (List.mem_cons_of_mem _ hrun)
    cases action with
    | assign next => exact hrest (next context event)
    | exec run =>
      have hfirst := h run List.mem_cons_self outlet context event
      exact (Output.events_append _ _).trans (by rw [hfirst, hrest, List.nil_append])

end

namespace Interpreter

variable {S C E K O : Type} {it it' : Interpreter S C E K O}

section

variable [DecidableEq S] [DecidableEq K] [Kinded E K] {inbox : Inbox E}

/-- Nobody sends, and the inbox is as it was. -/
structure Reticent (inbox : Inbox E) (it : Interpreter S C E K O) : Prop where
  quiet : it.Quiet
  tacit : it.definition.Tacit
  same : it.inbox = inbox

namespace Reticent

lemma hushed (h : Reticent inbox it) (hhushed : it.Hushed it') : Reticent inbox it' :=
  ⟨hhushed.quiet, hhushed.definition ▸ h.tacit, hhushed.inbox.trans h.same⟩

lemma log (h : Reticent inbox it) (o : Occurrence S C E O) : Reticent inbox (it.log o) :=
  ⟨h.quiet.elsewhere, h.tacit, h.same⟩

lemma moved (h : Reticent inbox it) (s : Snapshot S C) : Reticent inbox { it with snapshot := s } :=
  ⟨h.quiet.elsewhere, h.tacit, h.same⟩

lemma enter (h : Reticent inbox it) (target : S) (event : Option E) :
    Reticent inbox (it.enter target event) := by
  rw [enter_eq]
  exact ⟨h.quiet.elsewhere, h.tacit, h.same⟩

lemma take (h : Reticent inbox it) {t : Transition S C E O} (ht : t.Tacit) (event : Option E) :
    Reticent inbox (it.take t event) := by
  have hevents := ht.events it.outlet event it.context
  obtain ⟨⟨context, outputs⟩, hrun⟩ : ∃ run,
      Action.applyAll (some it.outlet) event t.actions it.context = run := ⟨_, rfl⟩
  rw [hrun] at hevents
  have hperformed := h.hushed (.performAll h.quiet .external hevents)
  unfold Interpreter.take
  rw [hrun]
  dsimp only
  cases t.target with
  | none => exact hperformed.moved _
  | some target =>
    have hentered := (hperformed.hushed (.leave hperformed.quiet)).enter target event
    have hlaunched (s : Snapshot S C) := (hentered.moved s).hushed (.launch (hentered.moved s).quiet)
    exact hlaunched _

lemma emit (h : Reticent inbox it) : Reticent inbox it.emit := by
  have hreplaced : Reticent inbox
      { it with watched := ⟨it.snapshot, it.watched.version + 1⟩ } := h.hushed (.uncounted h.quiet)
  have haired : Reticent inbox it.aired := hreplaced.log (.emitted it.snapshot)
  exact haired.hushed (.notify haired.quiet)

variable [Label S]

lemma settleWithin (h : Reticent inbox it) (steps : Nat) :
    Reticent inbox (it.settleWithin steps).1 := by
  fun_induction Interpreter.settleWithin steps it with
  | case1 => exact h
  | case2 => exact h.log _
  | case3 it steps t hselect ih => exact ih (h.take (h.tacit.selectEventless hselect) none)

lemma resolve (h : Reticent inbox it) (envelope : Envelope E) :
    Reticent inbox (it.resolve envelope).1 := by
  unfold Interpreter.resolve
  split
  · exact h.log _
  · split
    · exact h.log _
    · rename_i t hselect
      exact ((h.take (h.tacit.select hselect) _).settleWithin _).emit

lemma booted (h : Reticent inbox it) : Reticent inbox it.booted := by
  let begun : Interpreter S C E K O := { it with status := .running }.log (.started it.state)
  have hbegun : Reticent inbox begun := ⟨h.quiet.elsewhere, h.tacit, h.same⟩
  exact ((hbegun.hushed (.launch hbegun.quiet)).settleWithin _).emit

end Reticent

end

/-! ## What waits is put aside -/

/-- The interpreter while nothing waits. -/
def cleared (it : Interpreter S C E K O) : Interpreter S C E K O := it.amid {} it.recorded

/-- A move that queues nothing while nothing waits does the same over what waits. -/
lemma Indifferent.cleared {f : Interpreter S C E K O → Interpreter S C E K O}
    (hf : Indifferent f it) (hwaiting : (f it.cleared).inbox.waiting = []) :
    (f it).cleared = f it.cleared ∧ (f it).inbox.waiting = it.inbox.waiting := by
  obtain ⟨sent, told, hf⟩ := hf
  have hcleared : f it.cleared = _ := hf {} it.recorded
  have hself : f it = _ := hf it.inbox.queue it.recorded
  have hsent : sent = [] := by
    rw [hcleared] at hwaiting
    simpa [amid, Inbox.waiting] using hwaiting
  subst hsent
  rw [hcleared, hself]
  exact ⟨rfl, rfl⟩

section

variable [DecidableEq S] [Label S] [DecidableEq K] [Kinded E K]

omit [DecidableEq K] in
/-- The start does not look at what waits. -/
lemma booted_indifferent (it : Interpreter S C E K O) : Indifferent booted it := by
  have hbegin : Indifferent
      (fun here => { here with status := .running }.log (.started here.state)) it :=
    ⟨[], [.started it.state], fun _ _ => rfl⟩
  have hlaunch := hbegin.comp (launch_indifferent _)
  exact (hlaunch.comp (settle_impartial _).1).comp (emit_indifferent _)

end

end Interpreter

end Macrostep
