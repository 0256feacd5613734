/-
# Someone who looks on at effects

Effects fail in three places: a factory gives back an error when a state is entered, a cleanup fails
when the state is left, and a cleanup fails at the stop.

An onlooker sees which factories and cleanups are called, and knows what they give back.  It needs no
more of the journal than the attempts, the cleanups, the transitions and the stop (`Onlooker.see`),
and it never looks at a warning.  What the interpreter does to effects and what it holds of their
failures agrees with what the onlooker has seen, through every move of a machine that was not stopped
(`Interpreter.Honest`).
-/
import Macrostep.Proofs.ActiveEffect
import Macrostep.Proofs.Observers

namespace Macrostep

open Occurrence

variable {S C E K O : Type}

/-! ## An onlooker -/

/-- What someone knows of the effects of a machine who sees which factories and cleanups are
called. -/
structure Onlooker (E O : Type) where
  /-- The name and the handle of the effect that runs. -/
  running : Option (String × Handle E O) := none
  /-- The name and the handle of the effect whose cleanup was called last. -/
  leaving : Option (String × Handle E O) := none
  /-- The failures so far, in order. -/
  failures : List EffectError := []

namespace Onlooker

/-- The cleanup that was called last ran while the inbox was accepting or not, and it failed in the
name of its effect, or it did not fail. -/
def part (onlooker : Onlooker E O) (accepting : Bool) : Onlooker E O :=
  let failure := onlooker.leaving.bind fun (id, handle) =>
    (handle.ending accepting).failure.map (EffectError.cleanupFailed id)
  { onlooker with leaving := none, failures := onlooker.failures ++ failure.toList }

variable [DecidableEq S]

/-- What an onlooker learns from an occurrence.  A factory is called with the outlet of its attempt,
which is open.  A cleanup is called before the transition that leaves the state, or before the
interpreter is stopped, when the inbox is closed. -/
def see (d : Definition S C E K O) (timers : Bool) (onlooker : Onlooker E O) :
    Occurrence S C E O → Onlooker E O
  | .launching state context generation =>
    match d.effect? state with
    | none => onlooker
    | some effect =>
      match (effect.launch ⟨⟨.effect generation, true⟩, timers⟩ context).result with
      | .ok handle => { onlooker with running := some (effect.id, handle) }
      | .error error => { onlooker with failures := onlooker.failures ++ [error] }
  | .cleaned _ => { onlooker with running := none, leaving := onlooker.running }
  | .transitioned .. => onlooker.part true
  | .stopped _ => onlooker.part false
  | _ => onlooker

/-- What an onlooker knows who has seen everything that a journal tells. -/
def after (d : Definition S C E K O) (timers : Bool) (journal : List (Occurrence S C E O)) :
    Onlooker E O :=
  journal.foldl (see d timers) {}

lemma after_append (d : Definition S C E K O) (timers : Bool)
    (journal told : List (Occurrence S C E O)) :
    after d timers (journal ++ told) = told.foldl (see d timers) (after d timers journal) :=
  List.foldl_append

end Onlooker

/-- Whether an onlooker learns from it: an effect is attempted or cleaned up, a state is left, or
everything ends. -/
def Occurrence.isTelling : Occurrence S C E O → Bool
  | launching .. | cleaned _ | transitioned .. | stopped _ => true
  | _ => false

lemma Occurrence.isTelling_of_isLife {o : Occurrence S C E O} (h : o.isLife = false) :
    o.isTelling = false := by
  cases o <;> first | rfl | cases h

lemma Occurrence.isTelling_of_isReport {o : Occurrence S C E O} (h : o.isReport = true) :
    o.isTelling = false :=
  isTelling_of_isLife (isLife_of_isReport h)

namespace Onlooker

variable [DecidableEq S] {d : Definition S C E K O} {timed : Bool}

lemma see_of_not_isTelling {o : Occurrence S C E O} (h : o.isTelling = false)
    (onlooker : Onlooker E O) : see d timed onlooker o = onlooker := by
  cases o <;> first | rfl | cases h

lemma foldl_see_of_not_isTelling {told : List (Occurrence S C E O)}
    (h : ∀ o ∈ told, o.isTelling = false) (onlooker : Onlooker E O) :
    told.foldl (see d timed) onlooker = onlooker := by
  induction told with
  | nil => rfl
  | cons o told ih =>
    rw [List.forall_mem_cons] at h
    rw [List.foldl_cons, see_of_not_isTelling h.1, ih h.2]

/-- What others send meanwhile tells an onlooker nothing. -/
lemma foldl_see_of_interleaved {l sent l' : List (Occurrence S C E O)}
    (h : Interleaved l sent l') (hsent : ∀ o ∈ sent, o.isTelling = false)
    (onlooker : Onlooker E O) :
    l'.foldl (see d timed) onlooker = l.foldl (see d timed) onlooker := by
  induction h generalizing onlooker with
  | nil => rfl
  | keep o h ih => exact ih hsent _
  | insert o h ih =>
    rw [List.forall_mem_cons] at hsent
    rw [List.foldl_cons, see_of_not_isTelling hsent.1, ih hsent.2]

end Onlooker

namespace Interpreter

variable {it it' it'' it₀ : Interpreter S C E K O} {told more : List (Occurrence S C E O)}
  {d : Definition S C E K O} {timed : Bool} {handed : List EffectError}

/-! ## What concerns no effect -/

/-- Nothing happens to effects: none is attempted or cleaned up, and what fails is held as before. -/
structure Spares (it it' : Interpreter S C E K O) : Prop where
  journal : ∃ told, it'.journal = it.journal ++ told ∧ ∀ o ∈ told, o.isTelling = false
  definition : it'.definition = it.definition
  timers : it'.timers = it.timers
  reception : it'.inbox.reception = it.inbox.reception
  running : it'.running? = it.running?
  warnings : it'.warnings = it.warnings

namespace Spares

lemma refl (it : Interpreter S C E K O) : it.Spares it :=
  ⟨⟨[], (List.append_nil _).symm, by simp⟩, rfl, rfl, rfl, rfl, rfl⟩

/-- Changes of what has nothing to do with effects. -/
lemma adjust (h : it.Spares it') (hr : it''.recorded = it'.recorded)
    (hd : it''.definition = it'.definition) (ht : it''.timers = it'.timers)
    (hi : it''.inbox = it'.inbox) (hru : it''.running? = it'.running?)
    (hw : it''.warnings = it'.warnings) : it.Spares it'' where
  journal := by
    obtain ⟨told, hjournal, htold⟩ := h.journal
    exact ⟨told, by rw [Interpreter.journal, hr]; exact hjournal, htold⟩
  definition := hd.trans h.definition
  timers := ht.trans h.timers
  reception := by rw [hi, h.reception]
  running := hru.trans h.running
  warnings := hw.trans h.warnings

lemma log (it : Interpreter S C E K O) {o : Occurrence S C E O} (h : o.isTelling = false) :
    it.Spares (it.log o) :=
  ⟨⟨[o], journal_log it o, by simpa using h⟩, rfl, rfl, rfl, rfl, rfl⟩

/-- What user code does. -/
lemma performAll (it : Interpreter S C E K O) (origin : Origin) (outputs : List (Output E O)) :
    it.Spares (it.performAll origin outputs) := by
  obtain ⟨inbox, recorded, hframe⟩ := performAll_frame it origin outputs
  have hadds := performAll_adds it origin outputs
  refine ⟨⟨_, hadds.journal, fun o ho => ?_⟩, ?_, ?_, hadds.reception, ?_, ?_⟩
  · exact isTelling_of_isReport (forall_isReport_map _ _ _ o ho)
  · rw [hframe]
  · rw [hframe]
  · rw [hframe]
    rfl
  · rw [hframe]

lemma enqueue (it : Interpreter S C E K O) (origin : Origin) (event : E) :
    it.Spares (it.enqueue origin event) :=
  performAll it origin [.send event]

lemma emit (it : Interpreter S C E K O) : it.Spares it.emit := by
  obtain ⟨shown, hshown, hadds, hemit, -⟩ := emit_spec it
  refine ⟨⟨_, hadds.journal, List.forall_mem_cons.mpr ⟨rfl, fun o ho => ?_⟩⟩, hemit.definition,
    hemit.timers, hadds.reception, by rw [running?, running?, hemit.effect], hemit.warnings⟩
  exact isTelling_of_isLife (isLife_of_isAside (hshown o ho))

lemma subscribe (it : Interpreter S C E K O) (react : Observer S C E O) :
    it.Spares (it.subscribe react).1 := by
  by_cases hrunning : it.status = .running
  · obtain ⟨inbox, recorded, hsubscribe, hadds⟩ := subscribe_of_running hrunning react
    refine ⟨⟨_, hadds.journal, fun o ho => ?_⟩, ?_, ?_, hadds.reception, ?_, ?_⟩
    · exact isTelling_of_isLife (isLife_of_isAside (isAside_of_mem_account o ho))
    · rw [hsubscribe]
    · rw [hsubscribe]
    · rw [hsubscribe]
      rfl
    · rw [hsubscribe]
  · rw [subscribe_of_not_running hrunning]
    exact (refl it).adjust rfl rfl rfl rfl rfl rfl

/-- Ticks are sends, and the deadline of the next one concerns no effect but the one that ticks. -/
lemma advanceTo (it : Interpreter S C E K O) (time : Nat) (most : Option Nat) :
    it.Spares (it.advanceTo time most) := by
  rcases it.advanceTo_cases time most with hadvance | ⟨active, events, due, heffect, hadvance⟩
  · rw [hadvance]
    exact (refl it).adjust rfl rfl rfl rfl rfl rfl
  · have hsends := performAll it (.effect active.generation) (events.map .send)
    rw [hadvance]
    refine hsends.adjust rfl rfl rfl rfl ?_ rfl
    rw [hsends.running]
    simp [running?, heffect]

end Spares

/-! ## The account of a machine that was not stopped -/

variable [DecidableEq S]

/-- Things stand as an onlooker believes: the effect that it believes to run is active, and the
failures that it has seen were handed out or are held, that of the last cleanup among them, which
ran while the inbox was accepting. -/
structure Agrees (d : Definition S C E K O) (timed : Bool) (handed : List EffectError)
    (onlooker : Onlooker E O) (it : Interpreter S C E K O) : Prop where
  definition : it.definition = d
  timers : it.timers = timed
  accepting : it.inbox.accepting = true
  running : it.running?.map Prod.snd =
    onlooker.running.map fun (id, handle) => { handle with id }
  failures : handed ++ it.warnings = (onlooker.part true).failures

/-- Things stand as someone believes who has seen the journal, and no state is being left. -/
structure Honest (d : Definition S C E K O) (timed : Bool) (handed : List EffectError)
    (it : Interpreter S C E K O) : Prop extends
    Agrees d timed handed (.after d timed it.journal) it where
  leaving : (Onlooker.after d timed it.journal).leaving = none

lemma Agrees.spares (h : Agrees d timed handed (.after d timed it.journal) it)
    (hspares : it.Spares it') : Agrees d timed handed (.after d timed it'.journal) it' := by
  obtain ⟨told, hjournal, htold⟩ := hspares.journal
  rw [hjournal, Onlooker.after_append, Onlooker.foldl_see_of_not_isTelling htold]
  refine ⟨hspares.definition.trans h.definition, hspares.timers.trans h.timers, ?_, ?_, ?_⟩
  · rw [Inbox.accepting, hspares.reception]
    exact h.accepting
  · rw [hspares.running, h.running]
  · rw [hspares.warnings, h.failures]

/-- The failures of someone who sees no state being left. -/
lemma Onlooker.failures_part {onlooker : Onlooker E O} (h : onlooker.leaving = none)
    (accepting : Bool) : (onlooker.part accepting).failures = onlooker.failures := by
  simp [Onlooker.part, h]

namespace Honest

lemma of_sight {onlooker : Onlooker E O} (hsight : Onlooker.after d timed it.journal = onlooker)
    (hagrees : Agrees d timed handed onlooker it) (hleaving : onlooker.leaving = none) :
    Honest d timed handed it := by
  subst hsight
  exact ⟨hagrees, hleaving⟩

lemma spares (h : Honest d timed handed it) (hspares : it.Spares it') :
    Honest d timed handed it' := by
  obtain ⟨told, hjournal, htold⟩ := hspares.journal
  refine ⟨h.toAgrees.spares hspares, ?_⟩
  rw [hjournal, Onlooker.after_append, Onlooker.foldl_see_of_not_isTelling htold]
  exact h.leaving

lemma log (h : Honest d timed handed it) {o : Occurrence S C E O} (ho : o.isTelling = false) :
    Honest d timed handed (it.log o) :=
  h.spares (.log it ho)

/-- A state is entered: its factory gives back a handle, or an error, which is held. -/
lemma launch (h : Honest d timed handed it) : Honest d timed handed it.launch := by
  cases heffect : it.definition.effect? it.state with
  | none => rwa [launch_of_none heffect]
  | some effect =>
    have hinvoked : d.effect? it.state = some effect := h.definition ▸ heffect
    let surroundings : Surroundings := ⟨⟨.effect (it.generation + 1), true⟩, timed⟩
    let performed :=
      it.attempting.performAll (.effect (it.generation + 1)) (startup effect it).outputs
    have hstart : (startup effect it).result =
        (effect.launch surroundings it.context).result.map fun handle =>
          { handle with id := effect.id } := by
      rw [startup, h.accepting, h.timers]
      rfl
    have hspares : it.attempting.Spares performed := .performAll ..
    -- the attempt is seen, and what the factory does besides is not
    have hsight : Onlooker.after d timed performed.journal =
        Onlooker.see d timed (.after d timed it.journal)
          (.launching it.state it.context (it.generation + 1)) := by
      obtain ⟨told, hjournal, htold⟩ := hspares.journal
      rw [hjournal, Onlooker.after_append, Onlooker.foldl_see_of_not_isTelling htold, attempting,
        journal_log, Onlooker.after_append]
      rfl
    have haccepting : performed.inbox.accepting = true := by
      rw [Inbox.accepting, hspares.reception]
      exact h.accepting
    have hdefinition : performed.definition = d := hspares.definition.trans h.definition
    have htimers : performed.timers = timed := hspares.timers.trans h.timers
    have hrunning : performed.running? = it.running? := hspares.running
    have hfailures : handed ++ performed.warnings =
        (Onlooker.after d timed it.journal).failures := by
      rw [← Onlooker.failures_part h.leaving true, ← h.failures]
      exact congrArg _ hspares.warnings
    rw [launch_of_some heffect, hstart]
    cases hresult : (effect.launch surroundings it.context).result with
    | ok handle =>
      simp only [Onlooker.see, hinvoked, surroundings, hresult] at hsight
      have hlaunched (due : Nat) : Honest d timed handed
          { performed with
            effect := some ⟨it.generation + 1, { handle with id := effect.id }, due⟩ } :=
        .of_sight hsight ⟨hdefinition, htimers, haccepting, rfl,
          hfailures.trans (Onlooker.failures_part h.leaving true).symm⟩ h.leaving
      exact (hlaunched _).log rfl
    | error error =>
      simp only [Onlooker.see, hinvoked, surroundings, hresult] at hsight
      have hwarned : Honest d timed handed
          { performed with warnings := performed.warnings ++ [error] } := by
        refine .of_sight hsight ⟨hdefinition, htimers, haccepting, ?_, ?_⟩ h.leaving
        · exact (congrArg _ hrunning).trans h.running
        · simp [Onlooker.part, h.leaving, ← hfailures]
      exact hwarned.log rfl

end Honest

/-- What fails when the active effect is cleaned up. -/
def complaint? (it : Interpreter S C E K O) (accepting : Bool) : Option EffectError :=
  it.effect.bind fun active => active.handle.failure? accepting

/-- The cleanup that the onlooker sees is that of the effect that it believes to run. -/
lemma Honest.farewell (h : Honest d timed handed it) :
    let onlooker := it.farewell.foldl (Onlooker.see d timed) (.after d timed it.journal)
    onlooker.running = none ∧ ∀ accepting, (onlooker.part accepting).failures =
      handed ++ it.warnings ++ (it.complaint? accepting).toList := by
  have hrunning := h.running
  have hfailures := h.failures
  rw [Onlooker.failures_part h.leaving] at hfailures
  rw [hfailures]
  generalize hafter : Onlooker.after d timed it.journal = onlooker at hrunning
  have hleaving : onlooker.leaving = none := hafter ▸ h.leaving
  cases hactive : it.effect with
  | none =>
    have hnone : onlooker.running = none := by
      rw [running?, hactive] at hrunning
      exact Option.map_eq_none_iff.mp hrunning.symm
    simp [Interpreter.farewell, complaint?, hactive, hnone, Onlooker.part, hleaving]
  | some active =>
    rw [running?, hactive] at hrunning
    obtain ⟨⟨id, handle⟩, hbelieved, hmap⟩ := Option.map_eq_some_iff.mp hrunning.symm
    have hhandle : { handle with id } = active.handle := hmap
    simp only [Interpreter.farewell, complaint?, hactive, Option.toList_some, List.map_cons,
      List.map_nil, List.foldl_cons, List.foldl_nil, Onlooker.see, Onlooker.part, hbelieved,
      Option.bind_some]
    refine ⟨trivial, fun accepting => ?_⟩
    rw [← hhandle]
    rfl

omit [DecidableEq S] in
lemma release_snd (it : Interpreter S C E K O) :
    it.release.2 = it.complaint? it.inbox.accepting := by
  cases hactive : it.effect with
  | none => rw [release_of_none hactive, complaint?, hactive]; rfl
  | some active => rw [release_of_some hactive, complaint?, hactive]; rfl

omit [DecidableEq S] in
lemma warnings_leave (it : Interpreter S C E K O) :
    it.leave.warnings = it.warnings ++ (it.complaint? it.inbox.accepting).toList := by
  obtain ⟨left, hrelease, -⟩ := release_spec it
  have hwarnings : it.release.1.warnings = it.warnings := hrelease.stays.2.2.2
  unfold leave
  rw [← hwarnings, ← release_snd]
  generalize it.release = r
  obtain ⟨last, failure⟩ := r
  cases failure with
  | none => exact (List.append_nil _).symm
  | some error => rfl

omit [DecidableEq S] in
/-- Leaving begins with the cleanup, and the rest tells an onlooker nothing. -/
lemma Leaving.eq_farewell (h : Leaving it told it') :
    ∃ rest, (∀ o ∈ rest, o.isTelling = false) ∧ told = it.farewell ++ rest := by
  cases h with
  | smoothly hrelease =>
    obtain ⟨reports, hreports, htold⟩ := hrelease.eq_farewell
    exact ⟨reports, fun o ho => isTelling_of_isReport (hreports o ho), htold⟩
  | @failing left recorded it' error hrelease =>
    obtain ⟨reports, hreports, rfl⟩ := hrelease.eq_farewell
    refine ⟨reports ++ [.cleanupFailed error], ?_, List.append_assoc ..⟩
    refine List.forall_mem_append.mpr ⟨fun o ho => isTelling_of_isReport (hreports o ho), ?_⟩
    simp [isTelling]

/-- A state is left: the cleanup of the active effect runs, and its failure is held. -/
lemma Honest.leave (h : Honest d timed handed it) :
    Agrees d timed handed (.after d timed it.leave.journal) it.leave := by
  obtain ⟨left, hleave, hadds⟩ := leave_spec it
  obtain ⟨rest, hrest, hleft⟩ := hleave.eq_farewell
  obtain ⟨hnone, hfailures⟩ := h.farewell
  have hstays := hleave.stays
  rw [hadds.journal, hleft, Onlooker.after_append, List.foldl_append,
    Onlooker.foldl_see_of_not_isTelling hrest]
  refine ⟨hstays.definition.trans h.definition, hstays.timers.trans h.timers, ?_, ?_, ?_⟩
  · rw [Inbox.accepting, hadds.reception]
    exact h.accepting
  · rw [hnone, (running?_eq_none_iff _).mpr hleave.effect_eq_none]
    rfl
  · rw [hfailures, warnings_leave, h.accepting, List.append_assoc]

section

variable [Kinded E K]

/-- Once the next state is entered, it is settled how the last one was left. -/
lemma Honest.enter (h : Honest d timed handed it) (target : S) (event : Option E)
    (snapshot : Snapshot S C) :
    Honest d timed handed { it.leave.enter target event with snapshot } := by
  have hleft := h.leave
  have hsight : Onlooker.after d timed (it.leave.enter target event).journal =
      (Onlooker.after d timed it.leave.journal).part true := by
    rw [(enter_adds it.leave target event).journal, Onlooker.after_append]
    rfl
  refine .of_sight hsight ?_ rfl
  rw [enter_eq]
  refine ⟨hleft.definition, hleft.timers, hleft.accepting, hleft.running, ?_⟩
  exact hleft.failures.trans (Onlooker.failures_part rfl true).symm

/-- Taking a transition, whatever fails on the way. -/
lemma Honest.take (h : Honest d timed handed it) (t : Transition S C E O) (event : Option E) :
    Honest d timed handed (it.take t event) := by
  unfold Interpreter.take
  generalize Action.applyAll (some it.outlet) event t.actions it.context = applied
  have hready : Honest d timed handed (it.performAll .external applied.2) :=
    h.spares (.performAll it .external applied.2)
  cases t.target with
  | none => exact hready.spares ((Spares.refl _).adjust rfl rfl rfl rfl rfl rfl)
  | some target => exact (hready.enter target event _).launch

variable [Label S] [DecidableEq K]

omit [DecidableEq K] in
lemma Honest.booted (h : Honest d timed handed it) : Honest d timed handed it.booted := by
  have hspares : it.Spares ({ it with status := .running }.log (.started it.state)) :=
    (Spares.log it (o := .started it.state) rfl).adjust rfl rfl rfl rfl rfl rfl
  have hbooting : Honest d timed handed it.booting.1 :=
    settleWithin_induction (h.spares hspares).launch (fun _ t here => here.take t none)
      (fun _ _ here => here.log rfl) _
  exact hbooting.spares (.emit _)

lemma Honest.step (h : Honest d timed handed it) {envelope : Envelope E} {inbox : Inbox E}
    (hpop : it.inbox.pop? = some (envelope, inbox)) :
    Honest d timed handed (it.step envelope inbox).1 := by
  have hready : it.Spares (it.receiving envelope inbox) :=
    ⟨⟨[.taken envelope], journal_log _ _, by simp [isTelling]⟩, rfl, rfl,
      (Inbox.waiting_of_pop? hpop).2, rfl, rfl⟩
  exact resolve_induction (h.spares hready) envelope (fun _ _ here => here.log rfl)
    (fun _ _ here => here.log rfl) (fun _ t event here => here.take t event)
    (fun _ _ here => here.log rfl) fun here honest => honest.spares (.emit here)

lemma Honest.drain (h : Honest d timed handed it) (budget : Nat) :
    Honest d timed handed (it.drain budget).1 := by
  have hspec := drain_spec it budget
  generalize it.drain budget = r at hspec ⊢
  induction hspec with
  | done hdone => exact h
  | spent hstatus hwaiting => exact h
  | next hstatus hpop hok hrest ih => exact ih (h.step hpop)
  | failed hstatus hpop herr => exact h.step hpop

omit [Kinded E K] [Label S] [DecidableEq K] in
/-- What others send meanwhile makes no difference. -/
lemma Honest.meanwhile {it₁ : Interpreter S C E K O} (h : Honest d timed handed it₁)
    (hamid : it.Meanwhile it₁ it') : Honest d timed handed it' := by
  obtain ⟨first, rest, sent, rest', hjournal, hjournal', hwoven, hsent, -⟩ := hamid.told
  have hquiet : ∀ o ∈ sent, o.isTelling = false := by
    intro o ho
    obtain ⟨origin, event, rfl⟩ := hsent o ho
    exact isTelling_of_isReport (isReport_report origin _ _)
  have hsight : Onlooker.after d timed it'.journal = .after d timed it₁.journal := by
    rw [hjournal', hjournal, Onlooker.after_append, Onlooker.after_append]
    exact Onlooker.foldl_see_of_interleaved (hwoven.keep first) hquiet _
  refine .of_sight hsight ?_ h.leaving
  rw [hamid.same]
  exact ⟨h.definition, h.timers, h.accepting, h.running, h.failures⟩

omit [Kinded E K] [DecidableEq K] in
lemma Fresh.honest {options : Options} (h : Fresh d options it₀) :
    Honest d it₀.timers [] it₀ := by
  obtain ⟨now, timers, hplaced⟩ := h.exists_placed
  rw [hplaced]
  exact ⟨⟨rfl, rfl, rfl, rfl, rfl⟩, rfl⟩

end

end Interpreter

end Macrostep
