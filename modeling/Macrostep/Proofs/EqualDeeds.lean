/-
# Interpreters in unison

Quiet interpreters of one machine that mirror each other may differ in their effects.  In unison they
do not (`Interpreter.Unison`): the same effect is active in both under the same number, they keep the
same warnings, and their journals tell the same deeds, that is, what the machine itself has done, its
transitions and publications and the starts and cleanups of its effects.  Who sent what, who was
shown a position and which notes were taken on the way is no deed of the machine.

Whatever is done to both, they stay in unison (`Interpreter.Unison.lockstep`), and either of them may
do on its own what is no deed (`Interpreter.Idle`).
-/
import Mathlib.Data.List.Basic
import Macrostep.Proofs.MirroredRuns

namespace Macrostep

open Occurrence

namespace Interpreter

variable {S C E K O : Type} {it it' : Interpreter S C E K O}
  {told : List (Occurrence S C E O)}

/-! ## Deeds -/

/-- What the journal tells of the machine itself: everything but what happens beside it. -/
def deeds (it : Interpreter S C E K O) : List (Occurrence S C E O) :=
  it.journal.filter (!·.isAside)

lemma filter_of_asides (h : ∀ o ∈ told, o.isAside = true) : told.filter (!·.isAside) = [] :=
  List.filter_eq_nil_iff.mpr fun o ho => by simp [h o ho]

lemma deeds_of_adds (h : it.Adds told it') :
    it'.deeds = it.deeds ++ told.filter (!·.isAside) := by
  rw [deeds, h.journal, List.filter_append]
  rfl

lemma deeds_log (it : Interpreter S C E K O) (o : Occurrence S C E O) :
    (it.log o).deeds = it.deeds ++ [o].filter (!·.isAside) := by
  rw [deeds, journal_log, List.filter_append]
  rfl

/-- What happens beside the machine is no deed. -/
lemma deeds_of_asides (h : it.Adds told it') (hasides : ∀ o ∈ told, o.isAside = true) :
    it'.deeds = it.deeds := by
  rw [deeds_of_adds h, filter_of_asides hasides, List.append_nil]

/-! ## Accord -/

/-- Two interpreters have come to the same, and their machines have done the same on the way. -/
structure Accord (it it' : Interpreter S C E K O) : Prop where
  snapshot : it'.snapshot = it.snapshot
  history : it'.history.undated = it.history.undated
  running : it'.running? = it.running?
  generation : it'.generation = it.generation
  warnings : it'.warnings = it.warnings
  deeds : it'.deeds = it.deeds

/-- What is read of deeds, such as what was published, is read alike in both journals. -/
lemma Accord.reading (h : it.Accord it') {A : Type} {f : Occurrence S C E O → Option A}
    (hf : ∀ o, o.isAside = true → f o = none) :
    it'.journal.filterMap f = it.journal.filterMap f := by
  have hdeeds (here : Interpreter S C E K O) :
      here.journal.filterMap f = here.deeds.filterMap f := by
    rw [Interpreter.deeds, List.filterMap_filter]
    refine List.filterMap_congr fun o _ => ?_
    cases ho : o.isAside with
    | true => exact hf o ho
    | false => rfl
  rw [hdeeds, hdeeds, h.deeds]

/-! ## The effects of two interpreters -/

/-- The same has happened to the effects of two interpreters, and they tell the same deeds. -/
structure Ensemble (it it' : Interpreter S C E K O) : Prop where
  timers : it'.timers = it.timers
  running : it'.running? = it.running?
  generation : it'.generation = it.generation
  warnings : it'.warnings = it.warnings
  deeds : it'.deeds = it.deeds

namespace Ensemble

lemma log (h : Ensemble it it') {o o' : Occurrence S C E O} (ho : o' = o) :
    Ensemble (it.log o) (it'.log o') where
  timers := h.timers
  running := h.running
  generation := h.generation
  warnings := h.warnings
  deeds := by rw [deeds_log, deeds_log, h.deeds, ho]

/-- What user code does is no deed. -/
lemma performAll (h : Ensemble it it') (origin : Origin) (outputs : List (Output E O)) :
    Ensemble (it.performAll origin outputs) (it'.performAll origin outputs) := by
  have hdeeds (here : Interpreter S C E K O) :
      (here.performAll origin outputs).deeds = here.deeds :=
    deeds_of_asides (performAll_adds here origin outputs) fun o ho =>
      isAside_of_isReport (forall_isReport_map _ _ _ o ho)
  have htold := hdeeds it
  have htold' := hdeeds it'
  obtain ⟨inbox, recorded, hframe⟩ := performAll_frame it origin outputs
  obtain ⟨inbox', recorded', hframe'⟩ := performAll_frame it' origin outputs
  rw [hframe] at htold ⊢
  rw [hframe'] at htold' ⊢
  exact ⟨h.timers, h.running, h.generation, h.warnings, (htold'.trans h.deeds).trans htold.symm⟩

/-- An attempt to start an effect ends in the same way in both. -/
lemma attempted (h : Ensemble it it') (generation : Nat)
    (result : Except EffectError (Handle E O)) :
    Ensemble (attempted generation result it) (attempted generation result it') := by
  cases result with
  | ok handle => exact { h.log (o := .launched handle.id generation) rfl with running := rfl }
  | error error =>
    exact { h.log (o := .launchFailed error) rfl with
      warnings := congrArg (· ++ [error]) h.warnings }

/-- The active effect of both is cleaned up, in the same way. -/
lemma release (h : Ensemble it it') (haccepting : it'.inbox.accepting = it.inbox.accepting) :
    Ensemble it.release.1 it'.release.1 ∧ it'.release.2 = it.release.2 := by
  cases hactive : it.effect with
  | none =>
    have hnone : it.running? = none := (running?_eq_none_iff it).mpr hactive
    rw [release_of_none hactive,
      release_of_none ((running?_eq_none_iff it').mp (h.running.trans hnone))]
    exact ⟨h, rfl⟩
  | some active =>
    -- it is the same effect under the same number, though it may tick at another time
    have hrunning : it'.running? = some (active.generation, active.handle) := by
      rw [h.running, running?, hactive]
      rfl
    obtain ⟨active', hactive', heq⟩ := Option.map_eq_some_iff.mp hrunning
    obtain ⟨hgeneration, hhandle⟩ := Prod.mk.inj heq
    rw [release_of_some hactive, release_of_some hactive', hgeneration, hhandle, haccepting]
    have hended : Ensemble { it with effect := none } { it' with effect := none } :=
      { h with running := rfl }
    exact ⟨(hended.log rfl).performAll _ _, rfl⟩

lemma leave (h : Ensemble it it') (haccepting : it'.inbox.accepting = it.inbox.accepting) :
    Ensemble it.leave it'.leave := by
  obtain ⟨hreleased, hfailure⟩ := h.release haccepting
  unfold Interpreter.leave
  generalize it.release = r at hreleased hfailure
  generalize it'.release = r' at hreleased hfailure
  obtain ⟨here, failure⟩ := r
  obtain ⟨here', failure'⟩ := r'
  obtain rfl : failure' = failure := hfailure
  cases failure' with
  | none => exact hreleased
  | some error =>
    exact { hreleased.log (o := .cleanupFailed error) rfl with
      warnings := congrArg (· ++ [error]) hreleased.warnings }

end Ensemble

/-! ## Unison -/

/-- What two interpreters have told in common can be counted from any time on. -/
lemma Mirrors.rebased [DecidableEq S] {past past' : List (Occurrence S C E O)}
    (h : Mirrors past past' it it') : Mirrors it.progress it'.progress it it' :=
  { h with told := ⟨[], (List.append_nil _).symm, (List.append_nil _).symm⟩ }

variable [DecidableEq S]

/-- Two interpreters mirror each other, and so do their effects. -/
structure Unison (it it' : Interpreter S C E K O) : Prop
    extends Mirrors it.progress it'.progress it it', Ensemble it it'

namespace Unison

lemma of_mirrors {past past' : List (Occurrence S C E O)} (h : Mirrors past past' it it')
    (hensemble : Ensemble it it') : Unison it it' :=
  { h.rebased, hensemble with }

/-- The effect of the state is started in both, and it goes in the same way. -/
lemma launch (h : Unison it it') : Unison it.launch it'.launch := by
  have hmirrors := h.toMirrors.hushed (.launch h.quiet) (.launch h.quiet')
  have hstate : it'.state = it.state := congrArg Snapshot.state h.snapshot
  have hcontext : it'.context = it.context := congrArg Snapshot.context h.snapshot
  cases heffect : it.definition.effect? it.state with
  | none =>
    have heffect' : it'.definition.effect? it'.state = none := by
      rw [h.definition, hstate, heffect]
    rw [launch_of_none heffect, launch_of_none heffect']
    exact h
  | some effect =>
    have heffect' : it'.definition.effect? it'.state = some effect := by
      rw [h.definition, hstate, heffect]
    -- it is told the same: its number, that the inbox accepts, the timers and the context
    have hstartup : startup effect it' = startup effect it := by
      rw [startup, startup, h.generation, h.accepting, h.accepting', h.timers, hcontext]
    have hcounted : Ensemble { it with generation := it.generation + 1 }
        { it' with generation := it'.generation + 1 } :=
      { h.toEnsemble with generation := congrArg (· + 1) h.generation }
    have hattempting : Ensemble it.attempting it'.attempting :=
      hcounted.log (by rw [hstate, hcontext, h.generation])
    refine of_mirrors hmirrors ?_
    rw [launch_of_some heffect, launch_of_some heffect', hstartup, h.generation]
    exact (hattempting.performAll _ _).attempted _ _

/-- Both publish the position in which they are. -/
lemma emit (h : Unison it it') : Unison it.emit it'.emit := by
  obtain ⟨shown, hshown, hadds, hshows, -⟩ := emit_spec it
  obtain ⟨shown', hshown', hadds', hshows', -⟩ := emit_spec it'
  have hfilter {l : List (Occurrence S C E O)} (hl : ∀ o ∈ l, o.isAside = true)
      (s : Snapshot S C) : (.emitted s :: l).filter (!·.isAside) = [.emitted s] := by
    rw [List.filter_cons_of_pos rfl, filter_of_asides hl]
  refine of_mirrors h.toMirrors.emit ?_
  exact
    { timers := (hshows'.timers.trans h.timers).trans hshows.timers.symm
      running := by
        rw [running?, running?, hshows'.effect, hshows.effect]
        exact h.running
      generation := (hshows'.generation.trans h.generation).trans hshows.generation.symm
      warnings := (hshows'.warnings.trans h.warnings).trans hshows.warnings.symm
      deeds := by
        rw [deeds_of_adds hadds, deeds_of_adds hadds', hfilter hshown, hfilter hshown', h.deeds,
          h.snapshot] }

/-- Whatever is done to both, they stay in unison. -/
theorem lockstep [Kinded E K] :
    Lockstep (Unison : Interpreter S C E K O → Interpreter S C E K O → Prop) where
  log _ _ h o := of_mirrors (h.toMirrors.log o) (h.toEnsemble.log rfl)
  enqueue it it' h event := by
    refine of_mirrors (h.toMirrors.enqueue event) ?_
    rw [enqueue_of_accepting h.accepting, enqueue_of_accepting h.accepting']
    have hqueued : Ensemble
        { it with inbox := it.inbox.push ⟨event, .external⟩ }
        { it' with inbox := it'.inbox.push ⟨event, .external⟩ } := { h.toEnsemble with }
    exact hqueued.log rfl
  abreast _ _ h := Mirrors.lockstep.abreast h.toMirrors
  taken _ _ h _ _ _ hpop hpop' := of_mirrors (h.toMirrors.taken hpop hpop') { h.toEnsemble with }
  moved _ _ h s := of_mirrors (h.toMirrors.moved s) { h.toEnsemble with }
  enter _ _ h target event := by
    refine of_mirrors (h.toMirrors.enter target event) ?_
    rw [enter_eq, enter_eq, state, state, h.snapshot]
    exact { h.toEnsemble.log (o := .transitioned _ target event) rfl with }
  leave _ _ h :=
    of_mirrors (h.toMirrors.hushed (.leave h.quiet) (.leave h.quiet'))
      (h.toEnsemble.leave (h.accepting'.trans h.accepting.symm))
  launch _ _ := launch
  emit _ _ := emit

/-- Both are started. -/
lemma booted [Label S] [Kinded E K] (h : Unison it it') : Unison it.booted it'.booted := by
  have hbegun : Unison { it with status := .running } { it' with status := .running } :=
    { h with
      status := rfl
      quiet := h.quiet.elsewhere
      quiet' := h.quiet'.elsewhere }
  have hstarted : (.started it'.state : Occurrence S C E O) = .started it.state := by
    rw [state, state, h.snapshot]
  have htold : Unison ({ it with status := .running }.log (.started it.state))
      ({ it' with status := .running }.log (.started it'.state)) := by
    rw [hstarted]
    exact lockstep.log hbegun _
  exact (lockstep.settle htold.launch).2.emit

end Unison

/-! ## Idleness -/

/-- `it'` has come from `it`, which did nothing meanwhile: events may have come, time may have
passed, and mute observers may have come and gone. -/
structure Idle (it it' : Interpreter S C E K O) : Prop where
  beside : ∃ told, it.Beside told it'
  history : it'.history = it.history
  warnings : it'.warnings = it.warnings
  timers : it'.timers = it.timers
  quiet : it'.Quiet

namespace Idle

lemma log (h : it.Quiet) {o : Occurrence S C E O} (haside : o.isAside = true)
    (hno : o.accepted? = none) : it.Idle (it.log o) :=
  ⟨⟨_, .log it haside hno⟩, rfl, rfl, rfl, h.elsewhere⟩

lemma enqueue (h : it.Quiet) (origin : Origin) (event : E) :
    it.Idle (it.enqueue origin event) := by
  have hbeside := Beside.enqueue it origin event
  obtain ⟨inbox, recorded, hframe⟩ := perform_frame it origin (.send event)
  rw [show it.enqueue origin event = it.perform origin (.send event) from rfl, hframe] at hbeside ⊢
  exact ⟨⟨_, hbeside⟩, rfl, rfl, rfl, h.elsewhere⟩

lemma subscribe (h : it.Quiet) {react : Observer S C E O} (hmute : Mute react) :
    it.Idle (it.subscribe react).1 := by
  have hbeside := Beside.subscribe it react
  have hquiet := (Hushed.subscribe h hmute).quiet
  by_cases hrunning : it.status = .running
  · obtain ⟨inbox, recorded, hsubscribe, -⟩ := subscribe_of_running hrunning react
    rw [hsubscribe] at hbeside hquiet ⊢
    exact ⟨hbeside, rfl, rfl, rfl, hquiet⟩
  · rw [subscribe_of_not_running hrunning] at hbeside hquiet ⊢
    exact ⟨hbeside, rfl, rfl, rfl, hquiet⟩

lemma unsubscribe (h : it.Quiet) (id : Nat) : it.Idle (it.unsubscribe id).1 :=
  ⟨⟨[], (Beside.refl it).adjust rfl rfl rfl rfl rfl rfl rfl rfl⟩, rfl, rfl, rfl,
    (Hushed.unsubscribe h id).quiet⟩

/-- Time passes, and nothing ticks. -/
lemma advanceTo (h : it.Quiet) (time : Nat) (most : Option Nat) :
    it.Idle (it.advanceTo time most) := by
  have hbeside := Beside.advanceTo it time most
  have hquiet := (Hushed.advanceTo h time most).quiet
  rw [h.tame.advanceTo_eq] at hbeside hquiet ⊢
  exact ⟨hbeside, rfl, rfl, rfl, hquiet⟩

end Idle

end Interpreter

end Macrostep
