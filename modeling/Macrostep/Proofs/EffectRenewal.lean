/-
# Effects that begin and end

When the next tick of an effect is due is settled at its start, and it is put off only when time
passes.  A move that takes no time leaves the effect as it is, or nothing is left of it, or another
one is active, which an attempt has started in the meantime and whose first tick is one period away
(`Interpreter.Renews`).  Every move is of this kind except for the passing of time and the stop
(`Interpreter.Move.renews`).

On the way the journal tells of each attempt what its factory gave back, in the order of the
attempts and once for each (`Concluded`).
-/
import Macrostep.Proofs.AfterStop
import Macrostep.Proofs.Observers

namespace Macrostep

open Occurrence

variable {S C E K O : Type}

/-- How an attempt ended: with an effect under its number, or with a failure. -/
def Occurrence.outcome? : Occurrence S C E O → Option (Except EffectError Nat)
  | launched _ generation => some (.ok generation)
  | launchFailed error => some (.error error)
  | _ => none

/-- The occurrence is neither an attempt nor the end of one. -/
def Occurrence.isIdle (o : Occurrence S C E O) : Prop := o.attempt? = none ∧ o.outcome? = none

lemma Occurrence.isIdle_of_isLife {o : Occurrence S C E O} (h : o.isLife = false) : o.isIdle := by
  cases o <;> first | exact ⟨rfl, rfl⟩ | cases h

section

variable [DecidableEq S] {d : Definition S C E K O} {timed : Bool}
  {told more : List (Occurrence S C E O)}

/-- How the factory of a state ends the attempt of an interpreter that accepts events. -/
def Definition.answer? (d : Definition S C E K O) (timers : Bool) :
    S × C × Nat → Option (Except EffectError Nat)
  | (state, context, generation) => (d.effect? state).map fun effect =>
    (effect.start ⟨⟨.effect generation, true⟩, timers⟩ context).result.map fun _ => generation

/-- The attempts end as the factories say, in their order. -/
def Concluded (d : Definition S C E K O) (timers : Bool) (told : List (Occurrence S C E O)) :
    Prop :=
  told.filterMap outcome? = (told.filterMap attempt?).filterMap (d.answer? timers)

namespace Concluded

lemma append (h : Concluded d timed told) (h' : Concluded d timed more) :
    Concluded d timed (told ++ more) := by
  rw [Concluded, List.filterMap_append, List.filterMap_append, List.filterMap_append, h, h']

/-- Nothing is attempted. -/
lemma idle (h : ∀ o ∈ told, o.isIdle) : Concluded d timed told := by
  rw [Concluded, List.filterMap_eq_nil_iff.mpr fun o ho => (h o ho).1,
    List.filterMap_eq_nil_iff.mpr fun o ho => (h o ho).2]
  rfl

lemma of_isLife (h : ∀ o ∈ told, o.isLife = false) : Concluded d timed told :=
  idle fun o ho => isIdle_of_isLife (h o ho)

/-- The factory is called, and what it gives back is told behind what it did. -/
lemma attempt {reports : List (Occurrence S C E O)} {o : Occurrence S C E O} {state : S}
    {context : C} {generation : Nat} (hreports : ∀ o ∈ reports, o.isLife = false)
    (hattempt : o.attempt? = none)
    (houtcome : o.outcome? = d.answer? timed (state, context, generation)) :
    Concluded d timed (.launching state context generation :: (reports ++ [o])) := by
  have hquiet : reports.filterMap outcome? = [] :=
    List.filterMap_eq_nil_iff.mpr fun o ho => (isIdle_of_isLife (hreports o ho)).2
  have hidle : reports.filterMap attempt? = [] :=
    List.filterMap_eq_nil_iff.mpr fun o ho => (isIdle_of_isLife (hreports o ho)).1
  rw [Concluded, List.filterMap_cons_none rfl, List.filterMap_cons_some (f := attempt?) rfl,
    List.filterMap_append, List.filterMap_append, hquiet, hidle, List.nil_append, List.nil_append,
    List.filterMap_cons_none hattempt]
  simp [List.filterMap_cons, houtcome]

/-- What is not of the life of effects stands between. -/
lemma woven {sent told' : List (Occurrence S C E O)} (h : Concluded d timed told)
    (hwoven : Interleaved told sent told') (hsent : ∀ o ∈ sent, o.isLife = false) :
    Concluded d timed told' := by
  rw [Concluded, hwoven.filterMap_eq fun o ho => (isIdle_of_isLife (hsent o ho)).2,
    hwoven.filterMap_eq fun o ho => (isIdle_of_isLife (hsent o ho)).1, h]

end Concluded

end

namespace Interpreter

variable {it it' it'' : Interpreter S C E K O} {told more : List (Occurrence S C E O)}
  {active : ActiveEffect E O}

section

variable [DecidableEq S]

/-- The effect has just been started, by an attempt that the occurrences tell of. -/
def Begun (it : Interpreter S C E K O) (told : List (Occurrence S C E O))
    (active : ActiveEffect E O) : Prop :=
  ∃ state context effect outlet, (state, context, active.generation) ∈ told.filterMap attempt? ∧
    it.definition.effect? state = some effect ∧
    (effect.start ⟨outlet, it.timers⟩ context).result = .ok active.handle ∧
    active.due = it.now + (active.handle.ticker.map Ticker.period).getD 0

/-- What changes with the effect and what is told of it: the effect stays as it is, or whatever is
active has just been started. -/
structure Renewing (it : Interpreter S C E K O) (told : List (Occurrence S C E O))
    (it' : Interpreter S C E K O) : Prop where
  journal : it'.journal = it.journal ++ told
  effect : it'.effect = it.effect ∨ ∀ active, it'.effect = some active → it.Begun told active
  concluded : it.inbox.accepting = true → Concluded it.definition it.timers told

/-- No time passes, the inbox stays open or closed, and the effect stays as it is or is renewed. -/
structure Renews (it it' : Interpreter S C E K O) : Prop where
  renewing : ∃ told, it.Renewing told it'
  definition : it'.definition = it.definition
  timers : it'.timers = it.timers
  now : it'.now = it.now
  reception : it'.inbox.reception = it.inbox.reception

omit [DecidableEq S] in
lemma idle_of_mem_farewell : ∀ o ∈ it.farewell, o.isIdle := by
  intro o ho
  obtain ⟨active, -, rfl⟩ := List.mem_map.mp ho
  exact ⟨rfl, rfl⟩

omit [DecidableEq S] in
/-- Leaving a state attempts nothing. -/
lemma Leaving.idle (h : Leaving it told it') : ∀ o ∈ told, o.isIdle := by
  have hrelease {failure : Option EffectError} {left : List (Occurrence S C E O)}
      {it' : Interpreter S C E K O} (h : Releasing it left it' failure) : ∀ o ∈ left, o.isIdle := by
    obtain ⟨reports, hreports, rfl⟩ := h.eq_farewell
    exact List.forall_mem_append.mpr ⟨idle_of_mem_farewell, fun o ho =>
      isIdle_of_isLife (isLife_of_isReport (hreports o ho))⟩
  cases h with
  | smoothly h => exact hrelease h
  | failing h => exact List.forall_mem_append.mpr ⟨hrelease h, by simp [isIdle, attempt?, outcome?]⟩

omit [DecidableEq S] in
/-- The stop attempts nothing. -/
lemma Halting.idle (h : Halting it told it') : ∀ o ∈ told, o.isIdle := by
  obtain ⟨rest, hrest, rfl⟩ := h.shape
  have hidle : ∀ o ∈ rest, o.isIdle := by
    intro o ho
    rcases hrest o ho with hreport | ⟨error, rfl⟩
    · exact isIdle_of_isLife (isLife_of_isReport hreport)
    · exact ⟨rfl, rfl⟩
  exact List.forall_mem_append.mpr
    ⟨List.forall_mem_append.mpr ⟨idle_of_mem_farewell, hidle⟩, by simp [isIdle, attempt?, outcome?]⟩

lemma Begun.mono (h : it.Begun told active)
    (hmore : ∀ a ∈ told.filterMap attempt?, a ∈ more.filterMap attempt?) :
    it.Begun more active := by
  obtain ⟨state, context, effect, outlet, hattempt, hrest⟩ := h
  exact ⟨state, context, effect, outlet, hmore _ hattempt, hrest⟩

namespace Renews

/-- A move that has nothing to do with effects. -/
lemma of_effect_eq (hadds : it.Adds told it') (hlife : ∀ o ∈ told, o.isLife = false)
    (hdefinition : it'.definition = it.definition) (htimers : it'.timers = it.timers)
    (hnow : it'.now = it.now) (heffect : it'.effect = it.effect) : it.Renews it' :=
  ⟨⟨told, hadds.journal, .inl heffect, fun _ => .of_isLife hlife⟩, hdefinition, htimers, hnow,
    hadds.reception⟩

lemma refl (it : Interpreter S C E K O) : it.Renews it :=
  of_effect_eq (Adds.refl it) (by simp) rfl rfl rfl rfl

lemma trans (h : it.Renews it') (h' : it'.Renews it'') : it.Renews it'' where
  renewing := by
    obtain ⟨told, hrenew⟩ := h.renewing
    obtain ⟨more, hrenew'⟩ := h'.renewing
    refine ⟨told ++ more, by rw [hrenew'.journal, hrenew.journal, List.append_assoc], ?_, ?_⟩
    · rcases hrenew'.effect with hsame | hnew
      · rw [hsame]
        refine hrenew.effect.imp id fun hnew active hactive => (hnew active hactive).mono ?_
        intro a ha
        rw [List.filterMap_append]
        exact List.mem_append_left _ ha
      · refine .inr fun active hactive => ?_
        have hbegun := hnew active hactive
        rw [Begun, h.definition, h.timers, h.now] at hbegun
        refine Begun.mono hbegun fun a ha => ?_
        rw [List.filterMap_append]
        exact List.mem_append_right _ ha
    · intro haccepting
      have hmore := hrenew'.concluded
      rw [Inbox.accepting, h.reception, h.definition, h.timers] at hmore
      exact (hrenew.concluded haccepting).append (hmore haccepting)
  definition := h'.definition.trans h.definition
  timers := h'.timers.trans h.timers
  now := h'.now.trans h.now
  reception := h'.reception.trans h.reception

/-- Changes of what has nothing to do with effects. -/
lemma adjust (h : it.Renews it') (hr : it''.recorded = it'.recorded)
    (hd : it''.definition = it'.definition) (ht : it''.timers = it'.timers)
    (hn : it''.now = it'.now) (hi : it''.inbox.reception = it'.inbox.reception)
    (he : it''.effect = it'.effect) : it.Renews it'' where
  renewing := by
    obtain ⟨told, hrenew⟩ := h.renewing
    refine ⟨told, ?_, ?_, hrenew.concluded⟩
    · rw [journal, hr]
      exact hrenew.journal
    · rw [he]
      exact hrenew.effect
  definition := hd.trans h.definition
  timers := ht.trans h.timers
  now := hn.trans h.now
  reception := hi.trans h.reception

lemma log (h : it.Renews it') {o : Occurrence S C E O} (hidle : o.isIdle) :
    it.Renews (it'.log o) :=
  h.trans ⟨⟨[o], journal_log it' o, .inl rfl, fun _ => .idle (by simpa using hidle)⟩, rfl, rfl, rfl,
    rfl⟩

lemma performAll (it : Interpreter S C E K O) (origin : Origin) (outputs : List (Output E O)) :
    it.Renews (it.performAll origin outputs) := by
  obtain ⟨inbox, recorded, hframe⟩ := performAll_frame it origin outputs
  refine of_effect_eq (performAll_adds it origin outputs) ?_ ?_ ?_ ?_ ?_
  · exact fun o ho => isLife_of_isReport (forall_isReport_map _ _ _ o ho)
  all_goals rw [hframe]

lemma emit (it : Interpreter S C E K O) : it.Renews it.emit := by
  obtain ⟨shown, hshown, hadds, hemit, -⟩ := emit_spec it
  refine of_effect_eq hadds ?_ hemit.definition hemit.timers hemit.now hemit.effect
  exact List.forall_mem_cons.mpr ⟨rfl, fun o ho => isLife_of_isAside (hshown o ho)⟩

lemma leave (it : Interpreter S C E K O) : it.Renews it.leave := by
  obtain ⟨left, hleave, hadds⟩ := leave_spec it
  have hstays := hleave.stays
  refine ⟨⟨left, hadds.journal, .inr ?_, fun _ => .idle ?_⟩, hstays.definition, hstays.timers,
    hstays.now, hadds.reception⟩
  · intro active hactive
    cases hleave.effect_eq_none.symm.trans hactive
  · exact hleave.idle

lemma launch (it : Interpreter S C E K O) : it.Renews it.launch := by
  cases heffect : it.definition.effect? it.state with
  | none =>
    rw [launch_of_none heffect]
    exact refl it
  | some effect =>
    let reports := (startup effect it).outputs.map fun output =>
      (output.report (.effect (it.generation + 1)) it.attempting.inbox.accepting :
        Occurrence S C E O)
    let performed :=
      it.attempting.performAll (.effect (it.generation + 1)) (startup effect it).outputs
    have hperformed : it.attempting.Renews performed := performAll ..
    obtain ⟨inbox, recorded, hframe⟩ := performAll_frame it.attempting
      (.effect (it.generation + 1)) (startup effect it).outputs
    have hjournal (o : Occurrence S C E O) : performed.journal ++ [o] =
        it.journal ++ .launching it.state it.context (it.generation + 1) :: (reports ++ [o]) := by
      have hattempting : it.attempting.journal =
          it.journal ++ [.launching it.state it.context (it.generation + 1)] := journal_log ..
      rw [(performAll_adds it.attempting _ _).journal, hattempting]
      simp [reports]
    have hanswer (haccepting : it.inbox.accepting = true) :
        it.definition.answer? it.timers (it.state, it.context, it.generation + 1) =
          some ((startup effect it).result.map fun _ => it.generation + 1) := by
      rw [Definition.answer?, heffect, startup, haccepting]
      rfl
    have hconcluded {o : Occurrence S C E O} (hattempt : o.attempt? = none)
        (houtcome : o.outcome? = some ((startup effect it).result.map fun _ => it.generation + 1))
        (haccepting : it.inbox.accepting = true) : Concluded it.definition it.timers
          (.launching it.state it.context (it.generation + 1) :: (reports ++ [o])) :=
      .attempt (fun o ho => isLife_of_isReport (forall_isReport_map _ _ _ o ho)) hattempt
        (houtcome.trans (hanswer haccepting).symm)
    rw [launch_of_some heffect]
    cases hresult : (startup effect it).result with
    | error error =>
      rw [hresult] at hconcluded
      refine ⟨⟨_, (journal_log _ _).trans (hjournal _), .inl ?_, hconcluded rfl rfl⟩,
        hperformed.definition, hperformed.timers, hperformed.now, hperformed.reception⟩
      rw [hframe]
      rfl
    | ok handle =>
      rw [hresult] at hconcluded
      refine ⟨⟨_, (journal_log _ _).trans (hjournal _), .inr fun active hactive => ?_,
        hconcluded rfl rfl⟩, hperformed.definition, hperformed.timers, hperformed.now,
        hperformed.reception⟩
      obtain rfl := Option.some.inj hactive
      exact ⟨it.state, it.context, effect, _, List.mem_cons_self, heffect, hresult,
        congrArg (· + _) hperformed.now⟩

variable [Kinded E K]

lemma enter (it : Interpreter S C E K O) (target : S) (event : Option E)
    (snapshot : Snapshot S C) : it.Renews { it.enter target event with snapshot } := by
  have hentered := (refl it).log (o := .transitioned it.state target event) ⟨rfl, rfl⟩
  rw [enter_eq]
  exact hentered.adjust rfl rfl rfl rfl rfl rfl

lemma take (it : Interpreter S C E K O) (t : Transition S C E O) (event : Option E) :
    it.Renews (it.take t event) := by
  unfold Interpreter.take
  generalize Action.applyAll (some it.outlet) event t.actions it.context = applied
  have hready := performAll it .external applied.2
  cases t.target with
  | none => exact hready.adjust rfl rfl rfl rfl rfl rfl
  | some target => exact ((hready.trans (leave _)).trans (enter _ target event _)).trans (launch _)

variable [Label S] [DecidableEq K]

omit [DecidableEq K] in
lemma booted (it : Interpreter S C E K O) : it.Renews it.booted := by
  have hbegun : it.Renews ({ it with status := .running }.log (.started it.state)) :=
    ((refl it).log (o := .started it.state) ⟨rfl, rfl⟩).adjust rfl rfl rfl rfl rfl rfl
  have hbooting : it.Renews it.booting.1 :=
    settleWithin_induction (hbegun.trans (launch _)) (fun here t h => h.trans (take here t none))
      (fun _ _ h => h.log ⟨rfl, rfl⟩) _
  exact hbooting.trans (emit _)

lemma resolve (it : Interpreter S C E K O) (envelope : Envelope E) :
    it.Renews (it.resolve envelope).1 :=
  resolve_induction (refl it) envelope (fun _ _ h => h.log ⟨rfl, rfl⟩)
    (fun _ _ h => h.log ⟨rfl, rfl⟩) (fun here t event h => h.trans (take here t event))
    (fun _ _ h => h.log ⟨rfl, rfl⟩) (fun here h => h.trans (emit here))

lemma step (it : Interpreter S C E K O) {envelope : Envelope E} {inbox : Inbox E}
    (hpop : it.inbox.pop? = some (envelope, inbox)) : it.Renews (it.step envelope inbox).1 := by
  have hreceiving : it.Renews (it.receiving envelope inbox) :=
    ((refl it).log (o := .taken envelope) ⟨rfl, rfl⟩).adjust rfl rfl rfl rfl
      (Inbox.waiting_of_pop? hpop).2 rfl
  exact hreceiving.trans (resolve _ _)

omit [Kinded E K] [Label S] [DecidableEq K] in
/-- What others send meanwhile has nothing to do with effects. -/
lemma meanwhile {base it₁ : Interpreter S C E K O} (h : it.Renews it₁)
    (hjournal : ∃ before, base.journal = it.journal ++ before)
    (hamid : base.Meanwhile it₁ it') : it.Renews it' := by
  obtain ⟨told, hrenew⟩ := h.renewing
  obtain ⟨first, rest, sent, rest', hjournal₁, hjournal', hwoven, hsent, -⟩ := hamid.told
  obtain ⟨before, hbefore⟩ := hjournal
  have hwoven' := (hwoven.keep first).after before
  obtain rfl : told = before ++ first :: rest := by
    rw [hbefore, hrenew.journal, List.append_assoc] at hjournal₁
    exact List.append_cancel_left hjournal₁
  have hlife : ∀ o ∈ sent, o.isLife = false := by
    intro o ho
    obtain ⟨origin, event, rfl⟩ := hsent o ho
    exact isLife_of_isReport (isReport_report origin _ _)
  have hattempts := hwoven'.filterMap_eq (f := attempt?) fun o ho => attempt?_of_isLife (hlife o ho)
  obtain ⟨queue, recorded, rfl⟩ := hamid.exists_amid
  refine ⟨⟨before ++ first :: rest', ?_, ?_, fun haccepting => ?_⟩, h.definition, h.timers, h.now,
    h.reception⟩
  · rw [hjournal', hbefore, List.append_assoc]
  · refine hrenew.effect.imp id fun hnew active hactive => (hnew active hactive).mono ?_
    rw [hattempts]
    exact fun a ha => ha
  · exact (hrenew.concluded haccepting).woven hwoven' hlife

omit [Kinded E K] [Label S] [DecidableEq K] in
lemma subscribe (it : Interpreter S C E K O) (react : Observer S C E O) :
    it.Renews (it.subscribe react).1 := by
  by_cases hrunning : it.status = .running
  · obtain ⟨inbox, recorded, hsubscribe, hadds⟩ := subscribe_of_running hrunning react
    refine of_effect_eq hadds ?_ ?_ ?_ ?_ ?_
    · exact fun o ho => isLife_of_isAside (isAside_of_mem_account o ho)
    all_goals rw [hsubscribe]
  · rw [subscribe_of_not_running hrunning]
    exact (refl it).adjust rfl rfl rfl rfl rfl rfl

end Renews

end

/-- Every move renews the effect, but for the passing of time and the stop. -/
theorem Move.renews [DecidableEq S] [Label S] [DecidableEq K] [Kinded E K] (h : it.Move it') :
    it.Renews it' ∨ (∃ time most, it' = it.advanceTo time most) ∨ it' = it.stop.1 := by
  have hempty : ∃ before, it.journal = it.journal ++ before := ⟨[], (List.append_nil _).symm⟩
  cases h with
  | boot hstatus => exact .inl (.booted it)
  | turn hstatus hpop => exact .inl (.step it hpop)
  | bootAmid hstatus hamid => exact .inl ((Renews.booted it).meanwhile hempty hamid)
  | @turnAmid envelope inbox _ hstatus hpop hamid =>
    have hreceiving : ∃ before, (it.receiving envelope inbox).journal = it.journal ++ before :=
      ⟨[.taken envelope], journal_log _ _⟩
    exact .inl ((Renews.step it hpop).meanwhile hreceiving hamid)
  | subscribeAmid react hamid => exact .inl ((Renews.subscribe it react).meanwhile hempty hamid)
  | post origin event => exact .inl (.performAll it origin [.send event])
  | startIgnored => exact .inl ((Renews.refl it).log ⟨rfl, rfl⟩)
  | deferred event => exact .inl ((Renews.refl it).log ⟨rfl, rfl⟩)
  | dropped event => exact .inl ((Renews.refl it).log ⟨rfl, rfl⟩)
  | ignored event => exact .inl ((Renews.refl it).log ⟨rfl, rfl⟩)
  | subscribe react => exact .inl (.subscribe it react)
  | unsubscribe id => exact .inl ((Renews.refl it).adjust rfl rfl rfl rfl rfl rfl)
  | takeWarnings => exact .inl ((Renews.refl it).adjust rfl rfl rfl rfl rfl rfl)
  | advance time most => exact .inr (.inl ⟨time, most, rfl⟩)
  | halt => exact .inr (.inr rfl)

end Interpreter

end Macrostep
