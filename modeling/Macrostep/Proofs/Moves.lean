/-
# What the moves of a course do

Every move of a course described by what it adds to the journal and by what it leaves alone.  Most
moves stand aside of the machine (`Interpreter.Beside`): the position, the effect and the status
stay as they are.  What is left are the start, whose first position is entered and settled
(`Interpreter.Booting`), the resolution of one event, which has three ways to go
(`Interpreter.Resolving`), and the stop (`Interpreter.Halting`).

The stop throws away what waits, closes the inbox and cleans the active effect up.  What it tells are
its last words (`Interpreter.lastWords`): the cleanup, whose events are refused since the inbox is
closed by then, the failure of the cleanup if it fails, and that the machine was stopped.  Beyond them
the stop changes nothing but what can be called on (`Interpreter.stop_eq`).
-/
import Macrostep.Proofs.Course
import Macrostep.Proofs.Stretch

namespace Macrostep

open Occurrence

namespace Interpreter

variable {S C E K O : Type} {it it' it'' : Interpreter S C E K O}
  {told more : List (Occurrence S C E O)}

/-! ## Moves beside the machine -/

/-- The number and the handle of the active effect. -/
def running? (it : Interpreter S C E K O) : Option (Nat × Handle E O) :=
  it.effect.map fun active => (active.generation, active.handle)

/-- `it'` has come from `it` while nothing happened to the machine itself. -/
structure Beside (it : Interpreter S C E K O) (told : List (Occurrence S C E O))
    (it' : Interpreter S C E K O) : Prop extends it.Adds told it' where
  isAside : ∀ o ∈ told, o.isAside = true
  definition : it'.definition = it.definition
  options : it'.options = it.options
  status : it'.status = it.status
  snapshot : it'.snapshot = it.snapshot
  running : it'.running? = it.running?
  generation : it'.generation = it.generation

namespace Beside

lemma refl (it : Interpreter S C E K O) : it.Beside [] it where
  toAdds := Adds.refl it
  isAside := by simp
  definition := rfl
  options := rfl
  status := rfl
  snapshot := rfl
  running := rfl
  generation := rfl

lemma trans (h : it.Beside told it') (h' : it'.Beside more it'') :
    it.Beside (told ++ more) it'' where
  toAdds := h.toAdds.trans h'.toAdds
  isAside o ho := (List.mem_append.mp ho).elim (h.isAside o) (h'.isAside o)
  definition := h'.definition.trans h.definition
  options := h'.options.trans h.options
  status := h'.status.trans h.status
  snapshot := h'.snapshot.trans h.snapshot
  running := h'.running.trans h.running
  generation := h'.generation.trans h.generation

/-- The inbox and the journal are all that user code reaches. -/
lemma of_frame (hadds : it.Adds told it') (haside : ∀ o ∈ told, o.isAside = true)
    (hframe : ∃ inbox recorded, it' = { it with inbox, recorded }) : it.Beside told it' where
  toAdds := hadds
  isAside := haside
  definition := by obtain ⟨inbox, recorded, rfl⟩ := hframe; rfl
  options := by obtain ⟨inbox, recorded, rfl⟩ := hframe; rfl
  status := by obtain ⟨inbox, recorded, rfl⟩ := hframe; rfl
  snapshot := by obtain ⟨inbox, recorded, rfl⟩ := hframe; rfl
  running := by obtain ⟨inbox, recorded, rfl⟩ := hframe; rfl
  generation := by obtain ⟨inbox, recorded, rfl⟩ := hframe; rfl

/-- An occurrence beside the machine that tells nothing of the inbox is written down. -/
lemma log (it : Interpreter S C E K O) {o : Occurrence S C E O} (haside : o.isAside = true)
    (hno : o.accepted? = none) : it.Beside [o] (it.log o) :=
  of_frame (Adds.log it (taken?_of_isAside haside) hno) (by simpa using haside)
    ⟨it.inbox, _, rfl⟩

lemma performAll (it : Interpreter S C E K O) (origin : Origin) (outputs : List (Output E O)) :
    it.Beside (outputs.map (·.report origin it.inbox.accepting)) (it.performAll origin outputs) :=
  of_frame (performAll_adds it origin outputs)
    (fun o ho => isAside_of_isReport (forall_isReport_map _ _ _ o ho))
    (performAll_frame it origin outputs)

lemma enqueue (it : Interpreter S C E K O) (origin : Origin) (event : E) :
    it.Beside [(Output.send event).report origin it.inbox.accepting] (it.enqueue origin event) :=
  of_frame (enqueue_adds it origin event)
    (by simpa using isAside_of_isReport (isReport_report origin _ _))
    (perform_frame it origin (.send event))

/-- Changes that are seen neither in the journal nor in the inbox nor in the machine. -/
lemma adjust (h : it.Beside told it') (hr : it''.recorded = it'.recorded)
    (hi : it''.inbox = it'.inbox) (hd : it''.definition = it'.definition)
    (ho : it''.options = it'.options) (hst : it''.status = it'.status)
    (hsn : it''.snapshot = it'.snapshot) (hru : it''.running? = it'.running?)
    (hg : it''.generation = it'.generation) : it.Beside told it'' where
  toAdds := h.toAdds.congr rfl rfl hr hi
  isAside := h.isAside
  definition := hd.trans h.definition
  options := ho.trans h.options
  status := hst.trans h.status
  snapshot := hsn.trans h.snapshot
  running := hru.trans h.running
  generation := hg.trans h.generation

lemma subscribe (it : Interpreter S C E K O) (react : Observer S C E O) :
    ∃ told, it.Beside told (it.subscribe react).1 := by
  let counted : Interpreter S C E K O := { it with nextSubscription := it.nextSubscription + 1 }
  have hcounted : it.Beside [] counted := (refl it).adjust rfl rfl rfl rfl rfl rfl rfl rfl
  unfold Interpreter.subscribe
  dsimp only
  split
  · exact ⟨[], hcounted⟩
  · exact ⟨[], hcounted.adjust rfl rfl rfl rfl rfl rfl rfl rfl⟩
  · obtain ⟨told, htold, hadds⟩ := showTo_adds counted ⟨it.nextSubscription, react, []⟩
    have hshown := of_frame hadds htold (showTo_frame _ _)
    exact ⟨[] ++ told, (hcounted.trans hshown).adjust rfl rfl rfl rfl rfl rfl rfl rfl⟩

lemma advanceTo (it : Interpreter S C E K O) (time : Nat) (most : Option Nat) :
    ∃ told, it.Beside told (it.advanceTo time most) := by
  rcases it.advanceTo_cases time most with hadvance | ⟨active, events, due, heffect, hadvance⟩
  · rw [hadvance]
    exact ⟨[], (refl it).adjust rfl rfl rfl rfl rfl rfl rfl rfl⟩
  · have hsends := performAll it (.effect active.generation) (events.map .send)
    rw [hadvance]
    -- only the deadline changes in the effect itself
    refine ⟨_, hsends.adjust rfl rfl rfl rfl rfl rfl ?_ rfl⟩
    rw [hsends.running]
    simp [running?, heffect]

/-- Others may send beside the machine. -/
lemma meanwhile (h : it.Beside told it') (hamid : it.Meanwhile it' it'') :
    ∃ more, it.Beside more it'' := by
  obtain ⟨first, rest, sent, rest', rfl, hwoven, hsent, hadds⟩ := hamid.adds h.toAdds
  have haside : ∀ o ∈ first :: rest', o.isAside = true := by
    have hrest := List.forall_mem_cons.mp h.isAside
    refine List.forall_mem_cons.mpr ⟨hrest.1, hwoven.forall_mem hrest.2 fun o ho => ?_⟩
    exact isAside_of_isReport (hsent o ho)
  rw [hamid.same] at hadds ⊢
  exact ⟨_, hadds, haside, h.definition, h.options, h.status, h.snapshot, h.running, h.generation⟩

end Beside

/-! ## The stop -/

/-- The cleanup of the active effect. -/
def farewell (it : Interpreter S C E K O) : List (Occurrence S C E O) :=
  it.effect.toList.map fun active => .cleaned active.generation

/-- Release begins with the cleanup, and nothing but the reports of user code follows. -/
lemma Releasing.eq_farewell {failure : Option EffectError} (h : Releasing it told it' failure) :
    ∃ reports, (∀ o ∈ reports, o.isReport = true) ∧ told = it.farewell ++ reports := by
  cases h with
  | idle hno => exact ⟨[], by simp, by simp [farewell, hno]⟩
  | clean hactive hreports => exact ⟨_, hreports, by simp [farewell, hactive]⟩

lemma stop_of_stopped (h : it.status = .stopped) : it.stop.1 = it := by
  rw [stop, if_pos h]

/-- The interpreter when the stop turns to the active effect. -/
def shut (it : Interpreter S C E K O) : Interpreter S C E K O :=
  { it with status := .stopped, subscribers := [], inbox := { reception := .closed } }

/-- How the cleanup of the active effect fails behind a closed inbox, if it fails. -/
def lastFailure (it : Interpreter S C E K O) : Option EffectError :=
  it.effect.bind fun active => active.handle.failure? false

/-- What the cleanup of the active effect tells behind a closed inbox. -/
def lastDeeds (it : Interpreter S C E K O) : List (Occurrence S C E O) :=
  it.effect.elim [] fun active =>
    .cleaned active.generation ::
      (active.handle.ending false).outputs.map (·.report (.effect active.generation) false)

/-- What the stop tells. -/
def lastWords (it : Interpreter S C E K O) : List (Occurrence S C E O) :=
  it.lastDeeds ++ it.lastFailure.toList.map .cleanupFailed ++ [.stopped it.state]

/-- Behind a closed inbox user code changes the journal alone. -/
lemma performAll_of_closed (h : it.inbox.accepting = false) (origin : Origin)
    (outputs : List (Output E O)) :
    it.performAll origin outputs =
      { it with recorded := (outputs.map (·.report origin false)).reverse ++ it.recorded } := by
  induction outputs generalizing it with
  | nil => rfl
  | cons output outputs ih =>
    have hfirst : it.perform origin output = it.log (output.report origin false) := by
      cases output with
      | send event => exact enqueue_of_not_accepting h origin event
      | note content => rfl
      | share => rfl
    have hrest : (it.log (output.report origin false)).performAll origin outputs = _ := ih h
    change (it.perform origin output).performAll origin outputs = _
    rw [hfirst, hrest]
    simp [log]

/-- Behind the closed inbox the active effect is cleaned up. -/
lemma release_shut (it : Interpreter S C E K O) :
    it.shut.release =
      ({ it.shut with effect := none, recorded := it.lastDeeds.reverse ++ it.recorded },
        it.lastFailure) := by
  cases hactive : it.effect with
  | none =>
    have hidle : it.shut.effect = none := hactive
    rw [release_of_none hidle, lastDeeds, lastFailure, hactive]
    exact Prod.ext (by simp [shut, hactive]) rfl
  | some active =>
    have hrunning : it.shut.effect = some active := hactive
    rw [release_of_some hrunning, performAll_of_closed rfl, lastDeeds, lastFailure, hactive]
    exact Prod.ext (by simp [shut, log]; rfl) rfl

/-- The stop leaves everything alone but the status, the audience, the inbox and the effect. -/
theorem stop_eq (h : it.status ≠ .stopped) :
    it.stop =
      ({ it.shut with effect := none, recorded := it.lastWords.reverse ++ it.recorded },
        it.lastFailure.toList) := by
  have hrelease : Interpreter.release
      { it with status := .stopped, subscribers := [], inbox := { reception := .closed } } = _ :=
    it.release_shut
  rw [stop, if_neg h]
  simp only [hrelease, lastWords]
  cases it.lastFailure with
  | none => simp [log, shut, state]
  | some error => simp [log, shut, state]

lemma journal_stop (h : it.status ≠ .stopped) : it.stop.1.journal = it.journal ++ it.lastWords := by
  rw [stop_eq h]
  simp [journal]

/-- The stop as a release whose failure is told. -/
lemma stop_of_not_stopped (h : it.status ≠ .stopped) :
    it.stop.1 =
      (match it.shut.release.2 with
        | some error => it.shut.release.1.log (.cleanupFailed error)
        | none => it.shut.release.1).log (.stopped it.shut.release.1.state) := by
  rw [stop_eq h, release_shut, lastWords]
  cases it.lastFailure with
  | none => simp [log, shut, state]
  | some error => simp [log, shut, state]

/-- The last words begin with the cleanup and end with the stop; between them stands what user code
does, and how the cleanup fails. -/
lemma lastWords_eq_farewell (it : Interpreter S C E K O) :
    ∃ rest, (∀ o ∈ rest, o.isReport = true ∨ ∃ error, o = .cleanupFailed error) ∧
      it.lastWords = it.farewell ++ rest ++ [.stopped it.state] := by
  have hfailed : ∀ o ∈ (it.lastFailure.toList.map .cleanupFailed : List (Occurrence S C E O)),
      o.isReport = true ∨ ∃ error, o = .cleanupFailed error :=
    List.forall_mem_map.mpr fun error _ => .inr ⟨error, rfl⟩
  cases hactive : it.effect with
  | none =>
    refine ⟨_, hfailed, ?_⟩
    simp [lastWords, lastDeeds, farewell, hactive]
  | some active =>
    refine ⟨(active.handle.ending false).outputs.map (·.report (.effect active.generation) false) ++
      it.lastFailure.toList.map .cleanupFailed, List.forall_mem_append.mpr ⟨?_, hfailed⟩, ?_⟩
    · exact fun o ho => .inl (forall_isReport_map _ _ _ o ho)
    · simp [lastWords, lastDeeds, farewell, hactive]

/-- What the stop does to an interpreter that was not stopped before. -/
structure Halting (it : Interpreter S C E K O) (told : List (Occurrence S C E O))
    (it' : Interpreter S C E K O) : Prop where
  journal : it'.journal = it.journal ++ told
  /-- The active effect is cleaned up, which may fail. -/
  shape : ∃ rest, (∀ o ∈ rest, o.isReport = true ∨ ∃ error, o = .cleanupFailed error) ∧
    told = it.farewell ++ rest ++ [.stopped it.state]
  definition : it'.definition = it.definition
  options : it'.options = it.options
  status : it'.status = .stopped
  snapshot : it'.snapshot = it.snapshot
  effect : it'.effect = none
  generation : it'.generation = it.generation

theorem stop_spec (h : it.status ≠ .stopped) : ∃ told, it.Halting told it.stop.1 := by
  have hjournal := journal_stop h
  rw [stop_eq h] at hjournal ⊢
  exact ⟨it.lastWords, hjournal, it.lastWords_eq_farewell, rfl, rfl, rfl, rfl, rfl, rfl⟩

/-! ## The resolution of an event -/

section

variable [DecidableEq S] [Label S] [DecidableEq K] [Kinded E K]

/-- The steps that an interpreter owes to an input. -/
def answer (it : Interpreter S C E K O) (input : Option E) : List (Leg S C E O) :=
  it.definition.respond it.options.maxEventlessSteps it.snapshot input

omit [DecidableEq S] [Label S] [DecidableEq K] [Kinded E K] in
/-- Only events of effects are discarded. -/
lemma origin_of_stale {envelope : Envelope E} {generation : Nat}
    (h : it.staleGeneration? envelope = some generation) :
    envelope.origin = .effect generation := by
  unfold staleGeneration? at h
  split at h
  · cases h
  · rename_i horigin
    rw [horigin]
    split at h
    · cases h
    · exact congrArg _ (Option.some.inj h)

/-- The ways in which the resolution of an event can go. -/
inductive Resolving (it : Interpreter S C E K O) (envelope : Envelope E) :
    List (Occurrence S C E O) → Interpreter S C E K O × Except InterpreterError Unit → Prop
  /-- The event comes from an effect that is not active. -/
  | stale {generation : Nat} (hstale : it.staleGeneration? envelope = some generation) :
      Resolving it envelope [.stale envelope.event generation]
        (it.log (.stale envelope.event generation), .ok ())
  /-- No transition is enabled. -/
  | unhandled (hfresh : it.staleGeneration? envelope = none)
      (hnone : it.answer (some envelope.event) = []) :
      Resolving it envelope [.unhandled it.state envelope.event]
        (it.log (.unhandled it.state envelope.event), .ok ())
  /-- The steps that the definition prescribes are taken, and their end is published. -/
  | handled {legs : List (Leg S C E O)} {work shown : List (Occurrence S C E O)}
      {it' : Interpreter S C E K O} (hfresh : it.staleGeneration? envelope = none)
      (hlegs : it.answer (some envelope.event) = legs) (hsome : legs ≠ [])
      (hstretch : it.Stretch legs work it') (hproper : it'.Proper)
      (hshown : ∀ o ∈ shown, o.isAside = true) :
      Resolving it envelope (work ++ .emitted it'.snapshot :: shown)
        (it'.emit, it.verdict it'.snapshot)

theorem resolve_spec (hproper : it.Proper) (envelope : Envelope E) :
    ∃ told, it.Resolving envelope told (it.resolve envelope) ∧
      it.Adds told (it.resolve envelope).1 := by
  cases hstale : it.staleGeneration? envelope with
  | some generation =>
    have hresolve : it.resolve envelope =
        (it.log (.stale envelope.event generation), .ok ()) := by
      simp only [resolve, hstale]
    rw [hresolve]
    exact ⟨_, .stale hstale, Adds.log it rfl rfl⟩
  | none =>
    cases hselect : it.definition.select it.state it.context envelope.event with
    | none =>
      have hresolve : it.resolve envelope =
          (it.log (.unhandled it.state envelope.event), .ok ()) := by
        simp only [resolve, hstale, hselect]
      rw [hresolve]
      refine ⟨_, .unhandled hstale ?_, Adds.log it rfl rfl⟩
      exact (it.definition.respond_some_eq_nil_iff _ _ _).mpr hselect
    | some t =>
      let taken := it.take t (some envelope.event)
      have hresolve : it.resolve envelope = (taken.settle.1.emit, taken.settle.2) := by
        simp only [resolve, hstale, hselect]
        rfl
      obtain ⟨work, htake⟩ := take_stretch hproper t (some envelope.event)
      obtain ⟨⟨rest, hsettle⟩, hverdict⟩ :=
        settle_stretch (proper_take hproper t (some envelope.event))
      rw [htake.definition, htake.options, htake.snapshot, Leg.endOf_cons, Leg.endOf_nil]
        at hsettle hverdict
      have hlegs : it.answer (some envelope.event) =
          [⟨t, it.definition.apply t (some envelope.event) it.snapshot⟩] ++
            it.definition.chain it.options.maxEventlessSteps
              (it.definition.apply t (some envelope.event) it.snapshot) := by
        rw [answer, Definition.respond]
        simp only [show it.definition.select it.snapshot.state it.snapshot.context envelope.event =
          some t from hselect]
        rfl
      -- the transition of the event is the first step, and the chain follows it
      have hwhole := htake.trans hsettle
      have hsettled := proper_settle (proper_take hproper t (some envelope.event))
      obtain ⟨shown, hshown, hadds, -⟩ := emit_spec taken.settle.1
      have hend : taken.settle.2 = it.verdict taken.settle.1.snapshot := by
        rw [hwhole.snapshot, Leg.endOf_append]
        exact hverdict.trans (verdict_congr htake.toKept _)
      rw [hresolve, hend]
      refine ⟨_, .handled hstale hlegs (by simp) hwhole hsettled hshown, ?_⟩
      exact hwhole.adds.trans hadds

/-- Whatever the resolution of an event is made of keeps, the resolution keeps. -/
theorem resolve_induction {P : Interpreter S C E K O → Prop} (h : P it) (envelope : Envelope E)
    (hstale : ∀ it generation, P it → P (it.log (.stale envelope.event generation)))
    (hunhandled : ∀ it state, P it → P (it.log (.unhandled state envelope.event)))
    (htake : ∀ it t event, P it → P (it.take t event))
    (hcut : ∀ it steps, P it → P (it.log (.unsettled it.state steps)))
    (hemit : ∀ it, P it → P it.emit) : P (it.resolve envelope).1 := by
  unfold resolve
  split
  · exact hstale it _ h
  · split
    · exact hunhandled it _ h
    · exact hemit _ (settleWithin_induction (htake it _ _ h) (fun it t => htake it t none) hcut _)

omit [DecidableEq K] in
lemma settle_adds (it : Interpreter S C E K O) : ∃ told, it.Adds told it.settle.1 := by
  let P (here : Interpreter S C E K O) : Prop := ∃ told, it.Adds told here
  refine settleWithin_induction (P := P) ⟨[], Adds.refl it⟩ ?_ ?_ _
  · intro here t ⟨told, htold⟩
    obtain ⟨work, -, hwork⟩ := take_spec here t none
    exact ⟨told ++ work, htold.trans hwork⟩
  · intro here steps ⟨told, htold⟩
    exact ⟨_, htold.trans (Adds.log here rfl rfl)⟩

/-- The resolution of an event tells something. -/
lemma resolve_adds (it : Interpreter S C E K O) (envelope : Envelope E) :
    ∃ told, told ≠ [] ∧ it.Adds told (it.resolve envelope).1 := by
  unfold resolve
  split
  · exact ⟨_, List.cons_ne_nil _ _, Adds.log it rfl rfl⟩
  · split
    · exact ⟨_, List.cons_ne_nil _ _, Adds.log it rfl rfl⟩
    · rename_i t _
      obtain ⟨work, -, htake⟩ := take_spec it t (some envelope.event)
      obtain ⟨rest, hsettle⟩ := settle_adds (it.take t (some envelope.event))
      obtain ⟨shown, -, hemit, -⟩ := emit_spec (it.take t (some envelope.event)).settle.1
      exact ⟨_, by simp, (htake.trans hsettle).trans hemit⟩

omit [DecidableEq S] [Label S] [DecidableEq K] [Kinded E K] in
/-- The journal tells first that the event was taken. -/
lemma journal_of_receiving {envelope : Envelope E} {inbox : Inbox E}
    (hadds : (it.receiving envelope inbox).Adds told it') :
    it'.journal = it.journal ++ .taken envelope :: told := by
  rw [hadds.journal, receiving, journal_log, List.append_assoc]
  rfl

lemma step_meanwhile (it : Interpreter S C E K O) (envelope : Envelope E) (inbox : Inbox E) :
    (it.receiving envelope inbox).Meanwhile (it.step envelope inbox).1
      (it.step envelope inbox).1 := by
  obtain ⟨told, hsome, hadds⟩ := resolve_adds (it.receiving envelope inbox) envelope
  exact .refl hadds hsome

lemma step_status (it : Interpreter S C E K O) (envelope : Envelope E) (inbox : Inbox E) :
    (it.step envelope inbox).1.status = it.status := by
  let P (here : Interpreter S C E K O) : Prop := here.status = it.status
  have hready : P (it.receiving envelope inbox) := rfl
  refine resolve_induction hready envelope (fun _ _ h => h) (fun _ _ h => h) ?_ (fun _ _ h => h) ?_
  · intro here t event h
    obtain ⟨told, htaking, -⟩ := take_spec here t event
    exact htaking.kept.status.trans h
  · intro here h
    obtain ⟨-, -, -, hemit, -⟩ := emit_spec here
    exact hemit.status.trans h

/-! ## The start -/

/-- What the start does: the first position is entered, the eventless transitions that follow are
taken, and their end is published. -/
structure Booting (it : Interpreter S C E K O) (work shown : List (Occurrence S C E O)) : Prop where
  adds : it.Adds (.started it.state :: (work ++ .emitted it.booting.1.snapshot :: shown)) it.booted
  effort : Effort it.definition it.generation
    (it.snapshot :: (it.answer none).filterMap Leg.entered?) work it.booting.1.generation
  isAside : ∀ o ∈ shown, o.isAside = true
  snapshot : it.booting.1.snapshot = Leg.endOf it.snapshot (it.answer none)
  verdict : it.booting.2 = it.verdict it.booting.1.snapshot
  definition : it.booting.1.definition = it.definition
  options : it.booting.1.options = it.options
  proper : it.booting.1.Proper

theorem booting_spec (hproper : it.Proper) : ∃ work shown, it.Booting work shown := by
  let begun : Interpreter S C E K O := { it with status := .running }.log (.started it.state)
  have hbegun : it.Adds [.started it.state] begun := (Adds.log it rfl rfl).congr rfl rfl rfl rfl
  obtain ⟨first, hlaunch, hfirst⟩ := launch_spec begun
  have hstays := hlaunch.stays
  have hlaunched : begun.launch.Proper := by
    rw [Proper, state, hstays.snapshot, hstays.definition]
    exact hproper
  obtain ⟨⟨rest, hsettle⟩, hverdict⟩ := settle_stretch hlaunched
  rw [hstays.definition, hstays.options, hstays.snapshot] at hsettle hverdict
  have heffort := hsettle.effort
  rw [hstays.definition] at heffort
  obtain ⟨shown, hshown, hemit, -⟩ := emit_spec it.booting.1
  have hsnapshot : it.booting.1.snapshot = Leg.endOf it.snapshot (it.answer none) := by
    have := hsettle.snapshot
    rwa [hstays.snapshot] at this
  refine ⟨first ++ rest, shown, ?_, ?_, hshown, hsnapshot, ?_, ?_, ?_, ?_⟩
  · have := ((hbegun.trans hfirst).trans hsettle.adds).trans hemit
    simpa [booted] using this
  · exact hlaunch.effort.trans heffort
  · rw [hsnapshot]
    refine hverdict.trans ?_
    rw [verdict, verdict, hstays.definition, hstays.options]
    rfl
  · exact hsettle.definition.trans hstays.definition
  · exact hsettle.options.trans hstays.options
  · exact proper_settle hlaunched

omit [DecidableEq K] in
/-- The start tells something. -/
lemma booted_adds (it : Interpreter S C E K O) : ∃ told, told ≠ [] ∧ it.Adds told it.booted := by
  let begun : Interpreter S C E K O := { it with status := .running }.log (.started it.state)
  have hbegun : it.Adds [.started it.state] begun := (Adds.log it rfl rfl).congr rfl rfl rfl rfl
  obtain ⟨first, -, hfirst⟩ := launch_spec begun
  obtain ⟨rest, hrest⟩ := settle_adds begun.launch
  obtain ⟨shown, -, hemit, -⟩ := emit_spec it.booting.1
  exact ⟨_, by simp, ((hbegun.trans hfirst).trans hrest).trans hemit⟩

omit [DecidableEq K] in
lemma booted_meanwhile (it : Interpreter S C E K O) : it.Meanwhile it.booted it.booted := by
  obtain ⟨told, hsome, hadds⟩ := booted_adds it
  exact .refl hadds hsome

omit [DecidableEq K] in
lemma adds_of_booted_meanwhile (hamid : it.Meanwhile it.booted it') :
    ∃ told, it.Adds told it' := by
  obtain ⟨told, -, hadds⟩ := booted_adds it
  obtain ⟨first, rest, sent, rest', -, -, -, hadds'⟩ := hamid.adds hadds
  exact ⟨_, hadds'⟩

omit [DecidableEq K] in
lemma booted_status (it : Interpreter S C E K O) : it.booted.status = .running := by
  let begun : Interpreter S C E K O := { it with status := .running }.log (.started it.state)
  let P (here : Interpreter S C E K O) : Prop := here.status = .running
  obtain ⟨told, hlaunch, -⟩ := launch_spec begun
  have hlaunched : P begun.launch := hlaunch.stays.status
  have hbooting : P it.booting.1 := by
    refine settleWithin_induction hlaunched ?_ (fun _ _ h => h) _
    intro here t h
    obtain ⟨told, htaking, -⟩ := take_spec here t none
    exact htaking.kept.status.trans h
  obtain ⟨-, -, -, hemit, -⟩ := emit_spec it.booting.1
  exact hemit.status.trans hbooting

/-! ## All moves -/

/-- A move stands beside the machine, or it is the start, an event or the stop.  While the machine
starts or resolves an event others may send. -/
theorem Move.beside_or (h : it.Move it') :
    (∃ told, it.Beside told it') ∨
      it.status = .notStarted ∧ it.Meanwhile it.booted it' ∨
      (it.status = .running ∧ ∃ envelope inbox, it.inbox.pop? = some (envelope, inbox) ∧
        (it.receiving envelope inbox).Meanwhile (it.step envelope inbox).1 it') ∨
      it' = it.stop.1 := by
  cases h with
  | boot hstatus => exact .inr (.inl ⟨hstatus, booted_meanwhile it⟩)
  | turn hstatus hpop => exact .inr (.inr (.inl ⟨hstatus, _, _, hpop, step_meanwhile it _ _⟩))
  | halt => exact .inr (.inr (.inr rfl))
  | bootAmid hstatus hamid => exact .inr (.inl ⟨hstatus, hamid⟩)
  | turnAmid hstatus hpop hamid => exact .inr (.inr (.inl ⟨hstatus, _, _, hpop, hamid⟩))
  | subscribeAmid react hamid =>
    obtain ⟨told, hbeside⟩ := Beside.subscribe it react
    exact .inl (hbeside.meanwhile hamid)
  | post origin event => exact .inl ⟨_, Beside.enqueue it origin event⟩
  | startIgnored => exact .inl ⟨_, Beside.log it rfl rfl⟩
  | deferred event => exact .inl ⟨_, Beside.log it rfl rfl⟩
  | dropped event => exact .inl ⟨_, Beside.log it rfl rfl⟩
  | ignored event => exact .inl ⟨_, Beside.log it rfl rfl⟩
  | subscribe react => exact .inl (Beside.subscribe it react)
  | unsubscribe id => exact .inl ⟨_, (Beside.refl it).adjust rfl rfl rfl rfl rfl rfl rfl rfl⟩
  | takeWarnings => exact .inl ⟨_, (Beside.refl it).adjust rfl rfl rfl rfl rfl rfl rfl rfl⟩
  | advance time most => exact .inl (Beside.advanceTo it time most)

end

end Interpreter

end Macrostep
