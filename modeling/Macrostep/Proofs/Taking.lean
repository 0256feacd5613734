/-
# What taking a transition does

The moves that a transition is made of, each described once and for all by the ways in which it can
go: the effect of a state is started or fails to start (`Launching`), it is cleaned up on the way
out (`Leaving`), and both stand around the entry of a target (`Taking`).  Every description tells
the occurrences that the move adds to the journal and the interpreter that it leaves.  The laws of
the following files are read off these descriptions, so that none of them opens the moves
themselves.
-/
import Macrostep.Proofs.Journal

namespace Macrostep

open Occurrence

namespace Interpreter

variable {S C E K O : Type} [DecidableEq S]

/-- The ways in which the start of the effect of the current state can go. -/
inductive Launching (it : Interpreter S C E K O) :
    List (Occurrence S C E O) → Interpreter S C E K O → Prop
  /-- The state invokes no effect. -/
  | quiet (hno : it.definition.effect? it.state = none) : Launching it [] it
  /-- The effect runs from now on. -/
  | success {effect : Effect C E O} {surroundings : Surroundings} {handle : Handle E O} {due : Nat}
      {inbox : Inbox E} {reports recorded : List (Occurrence S C E O)}
      (heffect : it.definition.effect? it.state = some effect)
      (hresult : (effect.start surroundings it.context).result = .ok handle)
      (hreports : ∀ o ∈ reports, o.isReport = true) :
      Launching it
        (.launching it.state it.context (it.generation + 1) ::
          (reports ++ [.launched effect.id (it.generation + 1)]))
        { it with
          effect := some ⟨it.generation + 1, handle, due⟩
          generation := it.generation + 1
          inbox, recorded }
  /-- The effect does not start. -/
  | failure {effect : Effect C E O} {surroundings : Surroundings} {error : EffectError}
      {inbox : Inbox E} {reports recorded : List (Occurrence S C E O)}
      (heffect : it.definition.effect? it.state = some effect)
      (hresult : (effect.start surroundings it.context).result = .error error)
      (hreports : ∀ o ∈ reports, o.isReport = true) :
      Launching it
        (.launching it.state it.context (it.generation + 1) :: (reports ++ [.launchFailed error]))
        { it with
          generation := it.generation + 1
          warnings := it.warnings ++ [error]
          inbox, recorded }

/-- The ways in which the active effect is cleaned up, and the failure of the cleanup, if it
fails. -/
inductive Releasing (it : Interpreter S C E K O) :
    List (Occurrence S C E O) → Interpreter S C E K O → Option EffectError → Prop
  /-- No effect is active. -/
  | idle (hno : it.effect = none) : Releasing it [] it none
  /-- The cleanup of the active effect runs. -/
  | clean {active : ActiveEffect E O} {inbox : Inbox E} {failure : Option EffectError}
      {reports recorded : List (Occurrence S C E O)} (hactive : it.effect = some active)
      (hreports : ∀ o ∈ reports, o.isReport = true) :
      Releasing it (.cleaned active.generation :: reports)
        { it with effect := none, inbox, recorded } failure

/-- The ways in which a state is left, up to the entry of the next one. -/
inductive Leaving (it : Interpreter S C E K O) :
    List (Occurrence S C E O) → Interpreter S C E K O → Prop
  /-- Nothing fails. -/
  | smoothly {left : List (Occurrence S C E O)} {it' : Interpreter S C E K O}
      (hrelease : Releasing it left it' none) : Leaving it left it'
  /-- The cleanup of the active effect fails. -/
  | failing {left recorded : List (Occurrence S C E O)} {it' : Interpreter S C E K O}
      {error : EffectError} (hrelease : Releasing it left it' (some error)) :
      Leaving it (left ++ [.cleanupFailed error])
        { it' with warnings := it.warnings ++ [error], recorded }

variable [Kinded E K]

/-- The ways in which a transition can go. -/
inductive Taking (it : Interpreter S C E K O) (t : Transition S C E O) (event : Option E) :
    List (Occurrence S C E O) → Interpreter S C E K O → Prop
  /-- The transition has no target. -/
  | inside {inbox : Inbox E} {reports recorded : List (Occurrence S C E O)}
      (htarget : t.target = none) (hreports : ∀ o ∈ reports, o.isReport = true) :
      Taking it t event reports
        { it with
          snapshot := { it.snapshot with context := Action.assigned event t.actions it.context }
          inbox, recorded }
  /-- The transition enters its target. -/
  | across {target : S} {inbox : Inbox E} {reports recorded left begun : List (Occurrence S C E O)}
      {it₁ it₂ : Interpreter S C E K O} (htarget : t.target = some target)
      (hreports : ∀ o ∈ reports, o.isReport = true)
      (hleave : Leaving { it with inbox, recorded } left it₁)
      (hlaunch : Launching
        { it₁.enter target event with
          snapshot := ⟨target, Action.assigned event t.actions it.context,
            it₁.definition.isFinal target⟩ } begun it₂) :
      Taking it t event (reports ++ left ++ .transitioned it.state target event :: begun) it₂

/-! ## What the moves leave alone -/

/-- What no transition changes. -/
structure Kept (it it' : Interpreter S C E K O) : Prop where
  definition : it'.definition = it.definition
  options : it'.options = it.options
  status : it'.status = it.status
  nextSubscription : it'.nextSubscription = it.nextSubscription
  subscribers : it'.subscribers = it.subscribers
  watched : it'.watched = it.watched
  now : it'.now = it.now
  timers : it'.timers = it.timers

omit [DecidableEq S] [Kinded E K] in
lemma Kept.trans {it it' it'' : Interpreter S C E K O} (h : it.Kept it') (h' : it'.Kept it'') :
    it.Kept it'' where
  definition := h'.definition.trans h.definition
  options := h'.options.trans h.options
  status := h'.status.trans h.status
  nextSubscription := h'.nextSubscription.trans h.nextSubscription
  subscribers := h'.subscribers.trans h.subscribers
  watched := h'.watched.trans h.watched
  now := h'.now.trans h.now
  timers := h'.timers.trans h.timers

omit [DecidableEq S] [Kinded E K] in
lemma Kept.queue (it : Interpreter S C E K O) (inbox : Inbox E)
    (recorded : List (Occurrence S C E O)) : it.Kept { it with inbox, recorded } :=
  ⟨rfl, rfl, rfl, rfl, rfl, rfl, rfl, rfl⟩

/-- What a move leaves alone that does not lead to another position. -/
structure Stays (it it' : Interpreter S C E K O) : Prop extends it.Kept it' where
  snapshot : it'.snapshot = it.snapshot
  history : it'.history = it.history

section

variable {it it' : Interpreter S C E K O} {work : List (Occurrence S C E O)}

omit [DecidableEq S] [Kinded E K]

/-- What release leaves alone; afterwards no effect is active. -/
lemma Releasing.stays {failure : Option EffectError} (h : Releasing it work it' failure) :
    it.Stays it' ∧ it'.effect = none ∧ it'.generation = it.generation ∧
      it'.warnings = it.warnings := by
  cases h with
  | idle hno => exact ⟨⟨⟨rfl, rfl, rfl, rfl, rfl, rfl, rfl, rfl⟩, rfl, rfl⟩, hno, rfl, rfl⟩
  | clean hactive hreports =>
    exact ⟨⟨⟨rfl, rfl, rfl, rfl, rfl, rfl, rfl, rfl⟩, rfl, rfl⟩, rfl, rfl, rfl⟩

lemma Leaving.stays (h : Leaving it work it') : it.Stays it' := by
  cases h with
  | smoothly hrelease => exact hrelease.stays.1
  | failing hrelease =>
    have hstays := hrelease.stays.1
    exact ⟨⟨hstays.definition, hstays.options, hstays.status, hstays.nextSubscription,
      hstays.subscribers, hstays.watched, hstays.now, hstays.timers⟩, hstays.snapshot,
      hstays.history⟩

lemma Leaving.effect_eq_none (h : Leaving it work it') : it'.effect = none := by
  cases h with
  | smoothly hrelease => exact hrelease.stays.2.1
  | failing hrelease => exact hrelease.stays.2.1

lemma Leaving.generation_eq (h : Leaving it work it') : it'.generation = it.generation := by
  cases h with
  | smoothly hrelease => exact hrelease.stays.2.2.1
  | failing hrelease => exact hrelease.stays.2.2.1

lemma Launching.stays [DecidableEq S] (h : Launching it work it') : it.Stays it' := by
  cases h <;> exact ⟨⟨rfl, rfl, rfl, rfl, rfl, rfl, rfl, rfl⟩, rfl, rfl⟩

end

omit [DecidableEq S] in
/-- The entry of a state adds to the history, if the options say so, and to the journal. -/
lemma enter_eq (it : Interpreter S C E K O) (target : S) (event : Option E) :
    it.enter target event =
      { it with
        history :=
          if it.options.recordHistory then
            it.history.push ⟨it.state, target, event.map kindNameOf, .ofNanos it.now⟩
              it.options.historyLimit
          else it.history
        recorded := .transitioned it.state target event :: it.recorded } := by
  unfold enter
  by_cases h : it.options.recordHistory = true
  · simp only [log, h, if_true]
    rfl
  · simp only [log, h]
    rfl

omit [DecidableEq S] in
lemma enter_kept (it : Interpreter S C E K O) (target : S) (event : Option E)
    (snapshot : Snapshot S C) : it.Kept { it.enter target event with snapshot } := by
  rw [enter_eq]
  exact ⟨rfl, rfl, rfl, rfl, rfl, rfl, rfl, rfl⟩

/-! ## How effects start and stop -/

/-- An attempt to start an effect begins. -/
def attempting (it : Interpreter S C E K O) : Interpreter S C E K O :=
  { it with generation := it.generation + 1 }.log
    (.launching it.state it.context (it.generation + 1))

/-- An attempt to start an effect ends. -/
def attempted (generation : Nat) (result : Except EffectError (Handle E O))
    (it : Interpreter S C E K O) : Interpreter S C E K O :=
  match result with
  | .ok handle =>
    { it with
      effect := some ⟨generation, handle, it.now + (handle.ticker.map Ticker.period).getD 0⟩ }.log
      (.launched handle.id generation)
  | .error error => { it with warnings := it.warnings ++ [error] }.log (.launchFailed error)

/-- How the effect of the current state starts. -/
def startup (effect : Effect C E O) (it : Interpreter S C E K O) : Startup E O :=
  effect.start ⟨⟨.effect (it.generation + 1), it.inbox.accepting⟩, it.timers⟩ it.context

section

variable {it : Interpreter S C E K O}

omit [Kinded E K]

lemma launch_of_none (hno : it.definition.effect? it.state = none) : it.launch = it := by
  simp only [launch, hno]

lemma launch_of_some {effect : Effect C E O}
    (heffect : it.definition.effect? it.state = some effect) :
    it.launch = attempted (it.generation + 1) (startup effect it).result
      (it.attempting.performAll (.effect (it.generation + 1)) (startup effect it).outputs) := by
  simp only [launch, heffect]
  rw [show effect.start _ it.context = startup effect it from rfl]
  cases (startup effect it).result with
  | ok handle => rfl
  | error error => rfl

omit [DecidableEq S] in
lemma release_of_none (hno : it.effect = none) : it.release = (it, none) := by
  simp only [release, hno]

omit [DecidableEq S] in
lemma release_of_some {active : ActiveEffect E O} (hactive : it.effect = some active) :
    it.release =
      (({ it with effect := none }.log (.cleaned active.generation)).performAll
        (.effect active.generation) (active.handle.ending it.inbox.accepting).outputs,
        active.handle.failure? it.inbox.accepting) := by
  simp only [release, hactive]
  rfl

end

/-! ## The moves go in these ways -/

omit [DecidableEq S] [Kinded E K] in
lemma forall_isReport_map (origin : Origin) (accepting : Bool) (outputs : List (Output E O)) :
    ∀ o ∈ outputs.map (fun output => (output.report origin accepting : Occurrence S C E O)),
      o.isReport = true := by
  intro o ho
  obtain ⟨output, -, rfl⟩ := List.mem_map.mp ho
  exact isReport_report origin accepting output

omit [DecidableEq S] [Kinded E K] in
/-- A handle that is started is the one that the factory gives back, under the name of the effect. -/
lemma exists_launch_of_start {effect : Effect C E O} {surroundings : Surroundings} {context : C}
    {handle : Handle E O} (h : (effect.start surroundings context).result = .ok handle) :
    ∃ first, (effect.launch surroundings context).result = .ok first ∧
      handle = { first with id := effect.id } := by
  simp only [Effect.start] at h
  cases hlaunch : (effect.launch surroundings context).result with
  | error error =>
    rw [hlaunch] at h
    cases h
  | ok first =>
    rw [hlaunch] at h
    exact ⟨first, rfl, (Except.ok.inj h).symm⟩

omit [DecidableEq S] [Kinded E K] in
/-- A handle bears the name of its effect. -/
lemma id_of_start {effect : Effect C E O} {surroundings : Surroundings} {context : C}
    {handle : Handle E O} (h : (effect.start surroundings context).result = .ok handle) :
    handle.id = effect.id := by
  obtain ⟨first, -, rfl⟩ := exists_launch_of_start h
  rfl

omit [Kinded E K] in
theorem launch_spec (it : Interpreter S C E K O) :
    ∃ begun, Launching it begun it.launch ∧ it.Adds begun it.launch := by
  cases heffect : it.definition.effect? it.state with
  | none =>
    rw [launch_of_none heffect]
    exact ⟨[], .quiet heffect, Adds.refl it⟩
  | some effect =>
    let origin := Origin.effect (it.generation + 1)
    let outputs := (startup effect it).outputs
    have hattempting :
        it.Adds [.launching it.state it.context (it.generation + 1)] it.attempting :=
      (Adds.log it rfl rfl).congr rfl rfl rfl rfl
    have hperformed := hattempting.trans (performAll_adds it.attempting origin outputs)
    have hreports :=
      forall_isReport_map (S := S) (C := C) origin it.attempting.inbox.accepting outputs
    obtain ⟨inbox, recorded, hframe⟩ := performAll_frame it.attempting origin outputs
    rw [hframe] at hperformed
    rw [launch_of_some heffect, hframe]
    cases hresult : (startup effect it).result with
    | ok handle =>
      refine ⟨_, .success heffect hresult hreports, ?_⟩
      rw [← id_of_start hresult]
      exact hperformed.trans ((Adds.log _ rfl rfl).congr rfl rfl rfl rfl)
    | error error =>
      refine ⟨_, .failure heffect hresult hreports, ?_⟩
      exact hperformed.trans ((Adds.log _ rfl rfl).congr rfl rfl rfl rfl)

omit [DecidableEq S] [Kinded E K] in
theorem release_spec (it : Interpreter S C E K O) :
    ∃ left, Releasing it left it.release.1 it.release.2 ∧ it.Adds left it.release.1 := by
  cases hactive : it.effect with
  | none =>
    rw [release_of_none hactive]
    exact ⟨[], .idle hactive, Adds.refl it⟩
  | some active =>
    let cleaned : Interpreter S C E K O :=
      { it with effect := none }.log (.cleaned active.generation)
    let outputs := (active.handle.ending it.inbox.accepting).outputs
    have hcleaned : it.Adds [.cleaned active.generation] cleaned :=
      (Adds.log it rfl rfl).congr rfl rfl rfl rfl
    have hperformed :=
      hcleaned.trans (performAll_adds cleaned (.effect active.generation) outputs)
    obtain ⟨inbox, recorded, hframe⟩ :=
      performAll_frame cleaned (.effect active.generation) outputs
    rw [release_of_some hactive]
    refine ⟨_, ?_, hperformed⟩
    rw [hframe]
    exact .clean hactive (forall_isReport_map _ _ _)

omit [DecidableEq S] [Kinded E K] in
theorem leave_spec (it : Interpreter S C E K O) :
    ∃ left, Leaving it left it.leave ∧ it.Adds left it.leave := by
  obtain ⟨left, hrelease, hadds⟩ := release_spec it
  cases hfail : it.release.2 with
  | none =>
    have hleave : it.leave = it.release.1 := by
      unfold leave
      rw [show it.release = (it.release.1, none) from Prod.ext rfl hfail]
    rw [hfail] at hrelease
    rw [hleave]
    exact ⟨left, .smoothly hrelease, hadds⟩
  | some error =>
    have hleave : it.leave =
        { it.release.1 with warnings := it.release.1.warnings ++ [error] }.log
          (.cleanupFailed error) := by
      unfold leave
      rw [show it.release = (it.release.1, some error) from Prod.ext rfl hfail]
    have hwarnings : it.release.1.warnings = it.warnings := hrelease.stays.2.2.2
    rw [hfail] at hrelease
    rw [hleave, hwarnings]
    refine ⟨left ++ [.cleanupFailed error], .failing hrelease, ?_⟩
    exact hadds.trans ((Adds.log _ rfl rfl).congr rfl rfl rfl rfl)

omit [DecidableEq S] in
lemma enter_adds (it : Interpreter S C E K O) (target : S) (event : Option E) :
    it.Adds [.transitioned it.state target event] (it.enter target event) := by
  rw [enter_eq]
  exact (Adds.log it rfl rfl).congr rfl rfl rfl rfl

/-- Taking a transition goes in one of the two ways. -/
theorem take_spec (it : Interpreter S C E K O) (t : Transition S C E O) (event : Option E) :
    ∃ work, Taking it t event work (it.take t event) ∧ it.Adds work (it.take t event) := by
  obtain ⟨outputs, happly⟩ : ∃ outputs,
      Action.applyAll (some it.outlet) event t.actions it.context =
        (Action.assigned event t.actions it.context, outputs) :=
    ⟨_, Prod.ext (Action.applyAll_fst ..) rfl⟩
  obtain ⟨inbox, recorded, hframe⟩ := performAll_frame it .external outputs
  have hperformed := performAll_adds it .external outputs
  have hreports := forall_isReport_map (S := S) (C := C) .external it.inbox.accepting outputs
  rw [hframe] at hperformed
  cases htarget : t.target with
  | none =>
    have htake : it.take t event =
        { it with
          snapshot := { it.snapshot with context := Action.assigned event t.actions it.context }
          inbox, recorded } := by
      simp only [take, happly, htarget, hframe]
    rw [htake]
    exact ⟨_, .inside htarget hreports, hperformed.congr rfl rfl rfl rfl⟩
  | some target =>
    let ready : Interpreter S C E K O := { it with inbox, recorded }
    let arrived : Interpreter S C E K O :=
      { ready.leave.enter target event with
        snapshot := ⟨target, Action.assigned event t.actions it.context,
          ready.leave.definition.isFinal target⟩ }
    obtain ⟨left, hleave, hleft⟩ := leave_spec ready
    obtain ⟨begun, hlaunch, hbegun⟩ := launch_spec arrived
    have hstate : ready.leave.state = it.state := congrArg Snapshot.state hleave.stays.snapshot
    have henter : ready.leave.Adds [.transitioned it.state target event] arrived := by
      rw [← hstate]
      exact (enter_adds ready.leave target event).congr rfl rfl rfl rfl
    have htake : it.take t event = arrived.launch := by
      have hdefinition := congrArg Interpreter.definition (enter_eq ready.leave target event)
      simp only [take, happly, htarget, hframe]
      change Interpreter.launch { ready.leave.enter target event with
        snapshot := ⟨target, _, (ready.leave.enter target event).definition.isFinal target⟩ } = _
      rw [hdefinition]
    rw [htake]
    refine ⟨_, .across htarget hreports hleave hlaunch, ?_⟩
    have := ((hperformed.trans hleft).trans henter).trans hbegun
    simpa using this

end Interpreter

end Macrostep
