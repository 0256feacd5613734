/-
# Effects of a running interpreter

In every interpreter things stand with the effect of the current state as its journal tells
(`Interpreter.Household`).  While it runs, the effect is active exactly if the current state
invokes one and the last attempt succeeded; then it is the effect of that state, started with the
context with which the state was entered, and it bears the number of the last attempt.  Before the
start and after the stop no effect is active.
-/
import Macrostep.Proofs.EffectGrammar

namespace Macrostep

open Occurrence

namespace Interpreter

variable {S C E K O : Type} {it it' : Interpreter S C E K O} {told : List (Occurrence S C E O)}

/-- How things stand with the effect of the current state in an interpreter. -/
inductive Standing (it : Interpreter S C E K O) [DecidableEq S] : Tenancy S → Prop
  /-- It was not started. -/
  | vacant (hstatus : it.status = .notStarted) (hnone : it.running? = none) : Standing it .vacant
  /-- It is in a state without an effect. -/
  | idle (hstatus : it.status = .running) (hno : it.definition.effect? it.state = none)
      (hnone : it.running? = none) : Standing it .idle
  /-- The effect of its state did not start. -/
  | failed (hstatus : it.status = .running) (hsome : (it.definition.effect? it.state).isSome = true)
      (hnone : it.running? = none) : Standing it .failed
  /-- The effect of its state is active, under the number of the last attempt. -/
  | active {effect : Effect C E O} {surroundings : Surroundings} {context : C} {handle : Handle E O}
      (hstatus : it.status = .running) (hsome : it.definition.effect? it.state = some effect)
      (hattempt : .launching it.state context it.generation ∈ it.journal)
      (hstart : (effect.start surroundings context).result = .ok handle)
      (hactive : it.running? = some (it.generation, handle)) : Standing it .active
  /-- It was stopped. -/
  | ended (hstatus : it.status = .stopped) (hnone : it.running? = none) : Standing it .ended

variable [DecidableEq S]

/-- Things stand as the journal tells. -/
def Household (it : Interpreter S C E K O) : Prop :=
  ∃ tenancy, Lived it.definition it.journal tenancy it.generation ∧ it.Standing tenancy

omit [DecidableEq S] in
lemma running?_eq_none_iff (it : Interpreter S C E K O) :
    it.running? = none ↔ it.effect = none :=
  Option.map_eq_none_iff

/-- Things stand as before if the journal tells more and nothing else has changed. -/
lemma Standing.congr {tenancy : Tenancy S} (h : it.Standing tenancy)
    (hdefinition : it'.definition = it.definition) (hstatus' : it'.status = it.status)
    (hstate : it'.state = it.state) (hrunning : it'.running? = it.running?)
    (hgeneration : it'.generation = it.generation)
    (hjournal : ∀ o ∈ it.journal, o ∈ it'.journal) : it'.Standing tenancy := by
  cases h with
  | vacant hstatus hnone => exact .vacant (hstatus'.trans hstatus) (hrunning.trans hnone)
  | idle hstatus hno hnone =>
    refine .idle (hstatus'.trans hstatus) ?_ (hrunning.trans hnone)
    rw [hdefinition, hstate, hno]
  | failed hstatus hsome hnone =>
    refine .failed (hstatus'.trans hstatus) ?_ (hrunning.trans hnone)
    rw [hdefinition, hstate, hsome]
  | active hstatus hsome hattempt hstart hactive =>
    refine .active (hstatus'.trans hstatus) ?_ ?_ hstart ?_
    · rw [hdefinition, hstate, hsome]
    · rw [hstate, hgeneration]
      exact hjournal _ hattempt
    · rw [hrunning, hactive, hgeneration]
  | ended hstatus hnone => exact .ended (hstatus'.trans hstatus) (hrunning.trans hnone)

/-- What is not of the life of effects leaves things as they stand. -/
lemma Household.congr (h : it.Household) (hdefinition : it'.definition = it.definition)
    (hstatus : it'.status = it.status) (hstate : it'.state = it.state)
    (hrunning : it'.running? = it.running?) (hgeneration : it'.generation = it.generation)
    (hjournal : it'.journal = it.journal ++ told) (hlife : ∀ o ∈ told, o.isLife = false) :
    it'.Household := by
  obtain ⟨tenancy, hlived, hstanding⟩ := h
  refine ⟨tenancy, ?_, hstanding.congr hdefinition hstatus hstate hrunning hgeneration ?_⟩
  · rw [hdefinition, hjournal, hgeneration]
    exact hlived.skips hlife
  · intro o ho
    rw [hjournal]
    exact List.mem_append_left _ ho

/-- What others send meanwhile leaves things as they stand. -/
lemma Household.meanwhile {it₁ : Interpreter S C E K O} (h : it₁.Household)
    (hamid : it.Meanwhile it₁ it') : it'.Household := by
  obtain ⟨tenancy, hlived, hstanding⟩ := h
  obtain ⟨first, rest, sent, rest', hjournal, hjournal', hwoven, hsent, -⟩ := hamid.told
  have hwoven' := hwoven.keep first
  have hlife : ∀ o ∈ sent, o.isLife = false := by
    intro o ho
    obtain ⟨origin, event, rfl⟩ := hsent o ho
    exact isLife_of_isReport (isReport_report origin _ _)
  obtain ⟨queue, recorded, rfl⟩ := hamid.exists_amid
  refine ⟨tenancy, ?_, hstanding.congr rfl rfl rfl rfl rfl ?_⟩
  · rw [hjournal] at hlived
    rw [hjournal']
    exact hlived.woven hwoven' hlife
  · rw [hjournal, hjournal']
    exact (hwoven'.after it.journal).subset

lemma Household.log (h : it.Household) {o : Occurrence S C E O} (ho : o.isLife = false) :
    (it.log o).Household :=
  h.congr rfl rfl rfl rfl rfl (journal_log it o) (by simpa using ho)

lemma Household.beside (h : it.Household) (hbeside : it.Beside told it') : it'.Household :=
  h.congr hbeside.definition hbeside.status (congrArg Snapshot.state hbeside.snapshot)
    hbeside.running hbeside.generation hbeside.journal
    fun o ho => isLife_of_isAside (hbeside.isAside o ho)

lemma Household.emit (h : it.Household) : it.emit.Household := by
  obtain ⟨shown, hshown, hadds, hemit, -⟩ := emit_spec it
  refine h.congr hemit.definition hemit.status (congrArg Snapshot.state hemit.snapshot) ?_
    hemit.generation hadds.journal ?_
  · rw [running?, hemit.effect]
    rfl
  · intro o ho
    rcases List.mem_cons.mp ho with rfl | ho
    · rfl
    · exact isLife_of_isAside (hshown o ho)

/-! ## Moves between states -/

/-- While an interpreter runs, its effect is active or nothing is left to be done for it. -/
lemma Standing.free_or_active {tenancy : Tenancy S} (h : it.Standing tenancy)
    (hrunning : it.status = .running) :
    tenancy.isFree = true ∧ it.effect = none ∨
      tenancy = .active ∧ it.effect.map ActiveEffect.generation = some it.generation := by
  cases h with
  | vacant hstatus hnone =>
    rw [hrunning] at hstatus
    cases hstatus
  | idle hstatus hno hnone => exact .inl ⟨rfl, (running?_eq_none_iff it).mp hnone⟩
  | failed hstatus hsome hnone => exact .inl ⟨rfl, (running?_eq_none_iff it).mp hnone⟩
  | active hstatus hsome hattempt hstart hactive =>
    obtain ⟨active, heffect, hpair⟩ := Option.map_eq_some_iff.mp hactive
    refine .inr ⟨rfl, ?_⟩
    rw [heffect]
    exact congrArg some (Prod.mk.inj hpair).1
  | ended hstatus hnone =>
    rw [hrunning] at hstatus
    cases hstatus

/-- Before the start no state has been entered. -/
lemma Standing.vacant_of_notStarted {tenancy : Tenancy S} (h : it.Standing tenancy)
    (hstatus : it.status = .notStarted) : tenancy = .vacant ∧ it.effect = none := by
  cases h with
  | vacant _ hnone => exact ⟨rfl, (running?_eq_none_iff it).mp hnone⟩
  | idle hstatus' hno hnone =>
    rw [hstatus] at hstatus'
    cases hstatus'
  | failed hstatus' hsome hnone =>
    rw [hstatus] at hstatus'
    cases hstatus'
  | active hstatus' hsome hattempt hstart hactive =>
    rw [hstatus] at hstatus'
    cases hstatus'
  | ended hstatus' hnone =>
    rw [hstatus] at hstatus'
    cases hstatus'

variable {l : List (Occurrence S C E O)} {d : Definition S C E K O}

/-- A release tells that the active effect was cleaned up. -/
lemma Releasing.lived {failure : Option EffectError} {tenancy : Tenancy S}
    (h : Releasing it told it' failure) (hlived : Lived d l tenancy it.generation)
    (hstands : tenancy.isFree = true ∧ it.effect = none ∨
      tenancy = .active ∧ it.effect.map ActiveEffect.generation = some it.generation) :
    ∃ tenancy' : Tenancy S, tenancy'.isFree = true ∧
      Lived d (l ++ told) tenancy' it.generation := by
  cases h with
  | idle hno =>
    rcases hstands with ⟨hfree, -⟩ | ⟨-, hactive⟩
    · exact ⟨tenancy, hfree, by rwa [List.append_nil]⟩
    · rw [hno] at hactive
      cases hactive
  | @clean active inbox failure reports recorded hactive hreports =>
    rcases hstands with ⟨-, hnone⟩ | ⟨rfl, hgeneration⟩
    · rw [hactive] at hnone
      cases hnone
    · rw [hactive] at hgeneration
      have hnumber : active.generation = it.generation := Option.some.inj hgeneration
      have hdone := hlived.cleanup.skips fun o ho => isLife_of_isReport (hreports o ho)
      refine ⟨.left, rfl, ?_⟩
      rw [hnumber]
      simpa using hdone

lemma Leaving.lived {tenancy : Tenancy S} (h : Leaving it told it')
    (hlived : Lived d l tenancy it.generation)
    (hstands : tenancy.isFree = true ∧ it.effect = none ∨
      tenancy = .active ∧ it.effect.map ActiveEffect.generation = some it.generation) :
    ∃ tenancy' : Tenancy S, tenancy'.isFree = true ∧
      Lived d (l ++ told) tenancy' it.generation := by
  cases h with
  | smoothly hrelease => exact hrelease.lived hlived hstands
  | failing hrelease =>
    obtain ⟨tenancy', hfree, hleft⟩ := hrelease.lived hlived hstands
    refine ⟨tenancy', hfree, ?_⟩
    rw [← List.append_assoc]
    exact hleft.skip rfl

/-- Whoever has entered a state and launches its effect is at home there. -/
lemma Launching.household (h : Launching it told it') (hjournal : it'.journal = l ++ told)
    (hstatus : it.status = .running) (hnone : it.effect = none)
    (hlived : Lived it.definition l (.onEntry it.definition it.state) it.generation) :
    it'.Household := by
  cases h with
  | quiet hno =>
    rw [Tenancy.onEntry, hno] at hlived
    refine ⟨.idle, ?_, .idle hstatus hno ((running?_eq_none_iff it).mpr hnone)⟩
    rw [hjournal, List.append_nil]
    exact hlived
  | @success effect surroundings handle due inbox reports recorded heffect hresult hreports =>
    rw [Tenancy.onEntry, heffect] at hlived
    have hdone := ((hlived.attempt it.context).skips fun o ho =>
      isLife_of_isReport (hreports o ho)).success effect.id
    refine ⟨.active, ?_, .active hstatus heffect ?_ hresult rfl⟩
    · rw [hjournal]
      simpa using hdone
    · rw [hjournal]
      exact List.mem_append_right _ List.mem_cons_self
  | @failure effect surroundings error inbox reports recorded heffect hresult hreports =>
    rw [Tenancy.onEntry, heffect] at hlived
    have hdone := ((hlived.attempt it.context).skips fun o ho =>
      isLife_of_isReport (hreports o ho)).failure error
    refine ⟨.failed, ?_, .failed hstatus ?_ ((running?_eq_none_iff _).mpr hnone)⟩
    · rw [hjournal]
      simpa using hdone
    · exact Option.isSome_of_eq_some heffect

section

variable [Kinded E K]

/-- Taking a transition leads from home to home. -/
lemma Taking.household {t : Transition S C E O} {event : Option E}
    (h : Taking it t event told it') (hadds : it.Adds told it') (hrunning : it.status = .running)
    (hhouse : it.Household) : it'.Household := by
  have hjournal := hadds.journal
  cases h with
  | inside htarget hreports =>
    exact hhouse.congr rfl rfl rfl rfl rfl hjournal fun o ho => isLife_of_isReport (hreports o ho)
  | @across target inbox reports recorded left begun it₁ _ htarget hreports hleave hlaunch =>
    obtain ⟨tenancy, hlived, hstanding⟩ := hhouse
    have hreported := hlived.skips fun o ho => isLife_of_isReport (hreports o ho)
    obtain ⟨tenancy', hfree, hleft⟩ :=
      hleave.lived hreported (hstanding.free_or_active hrunning)
    have hentered := hleft.enter hfree it.state target event
    have hjournal' : it'.journal =
        (it.journal ++ reports ++ left ++ [.transitioned it.state target event]) ++ begun := by
      rw [hjournal]
      simp
    -- status, effect and number are those of `it₁` until the effect of the target is launched
    have hstatus := hleave.stays.status
    have hnone := hleave.effect_eq_none
    have harrived : Lived it₁.definition
        (it.journal ++ reports ++ left ++ [.transitioned it.state target event])
        (.onEntry it₁.definition target) it₁.generation := by
      rw [hleave.stays.definition, hleave.generation_eq]
      exact hentered
    rw [enter_eq] at hlaunch
    exact hlaunch.household hjournal' (hstatus.trans hrunning) hnone harrived

/-! ## Courses -/

variable [Label S] [DecidableEq K]

/-- A running interpreter in which things stand as the journal tells. -/
def Settled (it : Interpreter S C E K O) : Prop := it.status = .running ∧ it.Household

omit [Label S] [DecidableEq K] in
lemma Settled.take (h : it.Settled) (t : Transition S C E O) (event : Option E) :
    (it.take t event).Settled := by
  obtain ⟨told, htaking, hadds⟩ := take_spec it t event
  exact ⟨htaking.kept.status.trans h.1, htaking.household hadds h.1 h.2⟩

omit [Label S] [DecidableEq K] [Kinded E K] in
lemma Settled.log (h : it.Settled) {o : Occurrence S C E O} (ho : o.isLife = false) :
    (it.log o).Settled :=
  ⟨h.1, h.2.log ho⟩

omit [Label S] [DecidableEq K] [Kinded E K] in
lemma Settled.emit (h : it.Settled) : it.emit.Settled := by
  obtain ⟨-, -, -, hemit, -⟩ := emit_spec it
  exact ⟨hemit.status.trans h.1, h.2.emit⟩

lemma Settled.step (h : it.Settled) (envelope : Envelope E) (inbox : Inbox E) :
    (it.step envelope inbox).1.Settled := by
  have htaken : (it.receiving envelope inbox).Settled :=
    ⟨h.1, h.2.congr rfl rfl rfl rfl rfl (journal_log it _) (by simp [isLife])⟩
  exact resolve_induction htaken envelope (fun _ _ h => h.log rfl) (fun _ _ h => h.log rfl)
    (fun _ t event h => h.take t event) (fun _ _ h => h.log rfl) (fun _ h => h.emit)

omit [DecidableEq K] in
lemma Household.booted (h : it.Household) (hstatus : it.status = .notStarted) :
    it.booted.Settled := by
  obtain ⟨tenancy, hlived, hstanding⟩ := h
  obtain ⟨rfl, hnone⟩ := hstanding.vacant_of_notStarted hstatus
  -- no state was entered before, so the effect of the first one is what comes next
  let begun : Interpreter S C E K O := { it with status := .running }.log (.started it.state)
  have hbegun : Lived begun.definition begun.journal (.onEntry begun.definition begun.state)
      begun.generation := by
    rw [show begun.journal = it.journal ++ [.started it.state] from journal_log _ _]
    exact hlived.start it.state
  obtain ⟨told, hlaunch, hadds⟩ := launch_spec begun
  have hlaunched : begun.launch.Settled :=
    ⟨hlaunch.stays.status, hlaunch.household hadds.journal rfl hnone hbegun⟩
  have hbooting : it.booting.1.Settled :=
    settleWithin_induction hlaunched (fun _ t h => h.take t none) (fun _ _ h => h.log rfl) _
  exact hbooting.emit

omit [Kinded E K] [Label S] [DecidableEq K] in
/-- The stop ends everything. -/
lemma Household.stop (h : it.Household) : it.stop.1.Household := by
  by_cases hstopped : it.status = .stopped
  · rwa [stop_of_stopped hstopped]
  obtain ⟨told, hhalt⟩ := stop_spec hstopped
  obtain ⟨rest, hrest, htold⟩ := hhalt.shape
  obtain ⟨tenancy, hlived, hstanding⟩ := h
  have hskip : ∀ o ∈ rest, o.isLife = false := by
    intro o ho
    rcases hrest o ho with hreport | ⟨error, rfl⟩
    · exact isLife_of_isReport hreport
    · rfl
  have hended : it.stop.1.Standing .ended :=
    .ended hhalt.status ((running?_eq_none_iff _).mpr hhalt.effect)
  refine ⟨.ended, ?_, hended⟩
  rw [hhalt.definition, hhalt.journal, hhalt.generation, htold, ← List.append_assoc,
    ← List.append_assoc]
  cases hstatus : it.status with
  | stopped => exact absurd hstatus hstopped
  | notStarted =>
    obtain ⟨rfl, hnone⟩ := hstanding.vacant_of_notStarted hstatus
    have hfarewell : it.farewell = [] := by rw [farewell, hnone]; rfl
    rw [hfarewell, List.append_nil]
    exact (hlived.skips hskip).cancel it.state
  | running =>
    rcases hstanding.free_or_active hstatus with ⟨hfree, hnone⟩ | ⟨rfl, hactive⟩
    · have hfarewell : it.farewell = [] := by rw [farewell, hnone]; rfl
      rw [hfarewell, List.append_nil]
      exact (hlived.skips hskip).stop hfree it.state
    · obtain ⟨active, heffect, hnumber⟩ := Option.map_eq_some_iff.mp hactive
      have hfarewell : it.farewell = [.cleaned it.generation] := by
        rw [farewell, heffect, ← hnumber]
        rfl
      rw [hfarewell]
      exact (hlived.cleanup.skips hskip).stop rfl it.state

theorem Household.move (h : it.Household) (hmove : it.Move it') : it'.Household := by
  rcases hmove.beside_or with
    ⟨told, hbeside⟩ | ⟨hstatus, hamid⟩ | ⟨hrunning, envelope, inbox, hpop, hamid⟩ | rfl
  · exact h.beside hbeside
  · exact (h.booted hstatus).2.meanwhile hamid
  · exact (Settled.step ⟨hrunning, h⟩ envelope inbox).2.meanwhile hamid
  · exact h.stop

variable {options : Options} {it₀ : Interpreter S C E K O}

omit [DecidableEq K] [Kinded E K] in
lemma Fresh.household (h : Fresh d options it) : it.Household := by
  have hblank := h.blank
  refine ⟨.vacant, ?_, .vacant hblank.status ((running?_eq_none_iff it).mpr hblank.effect)⟩
  rw [hblank.generation, journal, hblank.recorded]
  exact .nil

theorem Course.household (hfresh : Fresh d options it₀) (hcourse : it₀.Course it) :
    it.Household := by
  induction hcourse with
  | refl => exact hfresh.household
  | tail hcourse hmove ih => exact ih.move hmove

end

/-! ## What follows for the active effect -/

/-- The effect that the journal tells to be active is the active one. -/
lemma Standing.runs {tenancy : Tenancy S} (h : it.Standing tenancy) :
    Lived.runs tenancy it.generation = it.effect.toList.map ActiveEffect.generation := by
  have hnone (hno : it.running? = none) : it.effect.toList.map ActiveEffect.generation = [] := by
    rw [(running?_eq_none_iff it).mp hno]
    rfl
  cases h with
  | active hstatus hsome hattempt hstart hactive =>
    obtain ⟨active, heffect, hpair⟩ := Option.map_eq_some_iff.mp hactive
    rw [heffect]
    exact congrArg (fun g => [g]) (Prod.mk.inj hpair).1.symm
  | vacant hstatus hno => exact (hnone hno).symm
  | idle hstatus hno hno' => exact (hnone hno').symm
  | failed hstatus hsome hno => exact (hnone hno).symm
  | ended hstatus hno => exact (hnone hno).symm

/-- No attempt is under way. -/
lemma Standing.pending {tenancy : Tenancy S} (h : it.Standing tenancy) :
    Lived.pending tenancy = 0 := by
  cases h <;> rfl

/-- The active effect is the one of the current state. -/
lemma Standing.of_effect {tenancy : Tenancy S} (h : it.Standing tenancy)
    {active : ActiveEffect E O} (heffect : it.effect = some active) :
    active.generation = it.generation ∧
      ∃ effect surroundings context, it.definition.effect? it.state = some effect ∧
        (it.state, context, it.generation) ∈ it.journal.filterMap attempt? ∧
        (effect.start surroundings context).result = .ok active.handle := by
  have hsome : it.running? = some (active.generation, active.handle) := by
    rw [running?, heffect]
    rfl
  cases h with
  | @active effect surroundings context handle hstatus heffect? hattempt hstart hactive =>
    obtain ⟨hnumber, rfl⟩ := Prod.mk.inj (Option.some.inj (hactive.symm.trans hsome))
    exact ⟨hnumber.symm, effect, surroundings, context, heffect?,
      List.mem_filterMap.mpr ⟨_, hattempt, rfl⟩, hstart⟩
  | vacant hstatus hnone => rw [hnone] at hsome; cases hsome
  | idle hstatus hno hnone => rw [hnone] at hsome; cases hsome
  | failed hstatus hsome' hnone => rw [hnone] at hsome; cases hsome
  | ended hstatus hnone => rw [hnone] at hsome; cases hsome

/-- Every effect that was started has been cleaned up, except for the active one. -/
lemma Household.cleanups (h : it.Household) :
    it.journal.filterMap cleanup? ++ it.effect.toList.map ActiveEffect.generation =
      it.journal.filterMap success? := by
  obtain ⟨tenancy, hlived, hstanding⟩ := h
  rw [← hstanding.runs, hlived.cleanups]

/-- An effect is active exactly while the interpreter runs in a state whose effect was started. -/
lemma Household.active_iff (h : it.Household) :
    it.effect.isSome = true ↔ it.status = .running ∧ it.definition.invokes it.snapshot = true ∧
      it.generation ∈ it.journal.filterMap success? := by
  have hcleanups := h.cleanups
  obtain ⟨tenancy, hlived, hstanding⟩ := h
  have hno (hnone : it.running? = none) : it.effect.isSome = false := by
    rw [(running?_eq_none_iff it).mp hnone]
    rfl
  cases hstanding with
  | vacant hstatus hnone => simp [hno hnone, hstatus]
  | ended hstatus hnone => simp [hno hnone, hstatus]
  | idle hstatus hquiet hnone =>
    have hinvokes : it.definition.invokes it.snapshot = false := by
      rw [Definition.invokes, show it.definition.effect? it.snapshot.state = none from hquiet]
      rfl
    simp [hno hnone, hinvokes]
  | failed hstatus hsome hnone =>
    -- the number of a failed attempt is not that of an effect
    have hbarren : it.generation ∉ it.journal.filterMap success? := fun hmem =>
      (hlived.success_le _ hmem).2 rfl rfl
    simp only [hno hnone, hbarren, and_false, Bool.false_eq_true]
  | active hstatus hsome hattempt hstart hactive =>
    obtain ⟨active, heffect, hpair⟩ := Option.map_eq_some_iff.mp hactive
    have hinvokes : it.definition.invokes it.snapshot = true := Option.isSome_of_eq_some hsome
    have hmem : it.generation ∈ it.journal.filterMap success? := by
      rw [← hcleanups, heffect, ← (Prod.mk.inj hpair).1]
      simp
    simp only [heffect, hstatus, hinvokes, hmem, Option.isSome_some, and_self]

end Interpreter

end Macrostep
