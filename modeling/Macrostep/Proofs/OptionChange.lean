/-
# The same interpreter with other options

Options are read in three places: when an event is sent too early, when an entry is put into the
history, and when eventless transitions do not come to an end.  An interpreter may be recast with
other options, and with the history that goes with them (`Interpreter.recast`); whoever does not look
at these does the same to either.

If the other options agree with the options in the first two places, and allow at least as many
eventless transitions, then calls that do not fail for want of them return the same and leave the
recast interpreter behind (`Interpreter.Recasts.foldl_after`); and if they allow just as many, so do
all calls.
-/
import Macrostep.Proofs.CutChains
import Macrostep.Proofs.HistoryPath

namespace Macrostep

variable {S C E K O : Type}

/-- The history with one more entry, as the options have it. -/
def Options.written (options : Options) (history : History S) (entry : Entry S) : History S :=
  if options.recordHistory then history.push entry options.historyLimit else history

/-- As many eventless transitions are allowed as before. -/
def SameBound (f : Options → Options) : Prop :=
  ∀ options, (f options).maxEventlessSteps = options.maxEventlessSteps

namespace Interpreter

variable {it it' : Interpreter S C E K O}

/-- The interpreter with other options and with another history. -/
def recast (it : Interpreter S C E K O) (f : Options → Options) (g : History S → History S) :
    Interpreter S C E K O :=
  { it with options := f it.options, history := g it.history }

/-! ## What no option has a part in -/

section

variable (it : Interpreter S C E K O) (f : Options → Options) (g : History S → History S)

lemma enqueue_recast (origin : Origin) (event : E) :
    (it.recast f g).enqueue origin event = (it.enqueue origin event).recast f g := by
  cases haccepting : it.inbox.accepting with
  | true =>
    have hrecast : (it.recast f g).inbox.accepting = true := haccepting
    rw [enqueue_of_accepting haccepting, enqueue_of_accepting hrecast]
    rfl
  | false =>
    have hrecast : (it.recast f g).inbox.accepting = false := haccepting
    rw [enqueue_of_not_accepting haccepting, enqueue_of_not_accepting hrecast]
    rfl

lemma performAll_recast (origin : Origin) (outputs : List (Output E O)) :
    (it.recast f g).performAll origin outputs = (it.performAll origin outputs).recast f g := by
  induction outputs generalizing it with
  | nil => rfl
  | cons output outputs ih =>
    have hfirst : (it.recast f g).perform origin output = (it.perform origin output).recast f g := by
      cases output with
      | send event => exact it.enqueue_recast f g origin event
      | note content => rfl
      | share => rfl
    change ((it.recast f g).perform origin output).performAll origin outputs = _
    rw [hfirst]
    exact ih _

lemma release_recast :
    (it.recast f g).release = (it.release.1.recast f g, it.release.2) := by
  cases hactive : it.effect with
  | none =>
    have hrecast : (it.recast f g).effect = none := hactive
    rw [release_of_none hactive, release_of_none hrecast]
  | some active =>
    have hrecast : (it.recast f g).effect = some active := hactive
    let cleaned : Interpreter S C E K O :=
      { it with effect := none }.log (.cleaned active.generation)
    have hperformed := cleaned.performAll_recast f g (.effect active.generation)
      (active.handle.ending it.inbox.accepting).outputs
    rw [release_of_some hactive, release_of_some hrecast]
    exact Prod.ext hperformed rfl

lemma leave_recast :
    (it.recast f g).leave = it.leave.recast f g := by
  unfold leave
  rw [release_recast]
  obtain ⟨released, failure⟩ := it.release
  cases failure <;> rfl

lemma showTo_recast (subscriber : Subscriber S C E O) :
    (it.recast f g).showTo subscriber = (it.showTo subscriber).recast f g :=
  (it.log (.observed subscriber.id it.snapshot)).performAll_recast ..

lemma emit_recast : (it.recast f g).emit = it.emit.recast f g := by
  have hshown : ∀ (subscribers : List (Subscriber S C E O)) (here : Interpreter S C E K O),
      subscribers.foldl showTo (here.recast f g) =
        (subscribers.foldl showTo here).recast f g := by
    intro subscribers
    induction subscribers with
    | nil => exact fun here => rfl
    | cons subscriber subscribers ih =>
      intro here
      rw [List.foldl_cons, showTo_recast]
      exact ih _
  have hall := hshown it.subscribers it.aired
  change (it.aired.recast f g).notify = it.aired.notify.recast f g
  unfold notify
  rw [show (it.aired.recast f g).subscribers = it.subscribers from rfl, hall]
  rfl

lemma advanceTo_recast (time : Nat) (most : Option Nat) :
    (it.recast f g).advanceTo time most = (it.advanceTo time most).recast f g := by
  unfold advanceTo
  rw [show (it.recast f g).effect = it.effect from rfl]
  cases it.effect with
  | none => rfl
  | some active =>
    dsimp only
    cases active.handle.ticker with
    | none => rfl
    | some ticker =>
      let send (here : Interpreter S C E K O) (event : E) :=
        here.enqueue (.effect active.generation) event
      have hrun := ticker.run_map send time (most.getD (time + 1)) active.due send
        (fun here => here.recast f g) (fun here event => here.enqueue_recast f g _ event) it
      dsimp only
      rw [hrun]
      rfl

lemma subscribe_recast (react : Observer S C E O) :
    (it.recast f g).subscribe react =
      ((it.subscribe react).1.recast f g, (it.subscribe react).2) := by
  refine Prod.ext ?_ ((subscribe_snd _ react).trans (subscribe_snd it react).symm)
  by_cases hrunning : it.status = .running
  · have hrecast : (it.recast f g).status = .running := hrunning
    have hgreeting : (it.recast f g).greeting react =
        (it.greeting react).recast f g :=
      ({ it with nextSubscription := it.nextSubscription + 1 } :
        Interpreter S C E K O).showTo_recast ..
    rw [subscribe_eq_of_running hrecast, hgreeting]
    dsimp only
    rw [subscribe_eq_of_running hrunning]
    rfl
  · have hrecast : (it.recast f g).status ≠ .running := hrunning
    rw [subscribe_of_not_running hrecast]
    dsimp only
    rw [subscribe_of_not_running hrunning]
    rfl

lemma stop_recast :
    (it.recast f g).stop = (it.stop.1.recast f g, it.stop.2) := by
  by_cases hstopped : it.status = .stopped
  · have hstop : it.stop = (it, []) := if_pos hstopped
    rw [hstop]
    exact if_pos hstopped
  · have hrecast : (it.recast f g).status ≠ .stopped := hstopped
    rw [stop_eq hstopped, stop_eq hrecast]
    rfl

lemma drop_recast : (it.recast f g).drop = it.drop.recast f g := by
  let first : Interpreter S C E K O := { it with inbox := it.inbox.discard, subscribers := [] }
  have hrelease : Interpreter.release
      { it.recast f g with
        inbox := (it.recast f g).inbox.discard, subscribers := [] } =
      (first.release.1.recast f g, first.release.2) := first.release_recast f g
  unfold drop
  dsimp only
  rw [hrelease]
  obtain ⟨released, failure⟩ := first.release
  cases failure <;> rfl

variable [DecidableEq S]

lemma launch_recast : (it.recast f g).launch = it.launch.recast f g := by
  cases heffect : it.definition.effect? it.state with
  | none =>
    have hrecast : (it.recast f g).definition.effect?
        (it.recast f g).state = none := heffect
    rw [launch_of_none heffect, launch_of_none hrecast]
  | some effect =>
    have hrecast : (it.recast f g).definition.effect?
        (it.recast f g).state = some effect := heffect
    have hperformed := it.attempting.performAll_recast f g
      (.effect (it.generation + 1)) (startup effect it).outputs
    rw [launch_of_some heffect, launch_of_some hrecast]
    change attempted (it.generation + 1) (startup effect it).result
      ((it.attempting.recast f g).performAll (.effect (it.generation + 1))
        (startup effect it).outputs) = _
    rw [hperformed]
    cases (startup effect it).result <;> rfl

end

/-! ## What options have a part in -/

section

variable [DecidableEq S] [Kinded E K]

/-- Other options that agree with those of an interpreter, but may allow more eventless
transitions, and the history that goes with them. -/
structure Recasts (f : Options → Options) (g : History S → History S)
    (it : Interpreter S C E K O) : Prop where
  proper : it.Proper
  defers : (f it.options).deferEvents = it.options.deferEvents
  written (history : History S) (entry : Entry S) :
    (f it.options).written (g history) entry = g (it.options.written history entry)
  allows : it.options.maxEventlessSteps ≤ (f it.options).maxEventlessSteps

namespace Recasts

variable {f : Options → Options} {g : History S → History S}

omit [Kinded E K] in
lemma of_options (h : it.Recasts f g) (hproper : it'.Proper)
    (hoptions : it'.options = it.options) : it'.Recasts f g where
  proper := hproper
  defers := hoptions ▸ h.defers
  written := hoptions ▸ h.written
  allows := hoptions ▸ h.allows

lemma afterTake (h : it.Recasts f g) (t : Transition S C E O) (event : Option E) :
    (it.take t event).Recasts f g := by
  obtain ⟨work, htake⟩ := take_stretch h.proper t event
  exact h.of_options (proper_take h.proper t event) htake.options

omit [DecidableEq S] in
/-- An entry is put into either history. -/
lemma enter_of_written
    (h : ∀ entry, (f it.options).written (g it.history) entry =
      g (it.options.written it.history entry)) (target : S) (event : Option E) :
    (it.recast f g).enter target event = (it.enter target event).recast f g := by
  rw [enter_eq, enter_eq]
  let entered (history : History S) : Interpreter S C E K O :=
    { it with
      options := f it.options
      history
      recorded := .transitioned it.state target event :: it.recorded }
  exact congrArg entered (h ⟨it.state, target, event.map kindNameOf, .ofNanos it.now⟩)

/-- Taking a transition is the same. -/
lemma take (h : it.Recasts f g) (t : Transition S C E O) (event : Option E) :
    (it.recast f g).take t event = (it.take t event).recast f g := by
  obtain ⟨⟨context, outputs⟩, hrun⟩ : ∃ run,
      Action.applyAll (some it.outlet) event t.actions it.context = run := ⟨_, rfl⟩
  obtain ⟨inbox, recorded, hframe⟩ := performAll_frame it .external outputs
  obtain ⟨left, hleave, -⟩ := leave_spec (it.performAll .external outputs)
  have hoptions : (it.performAll .external outputs).leave.options = it.options := by
    rw [hleave.stays.options, hframe]
  have hrecast : Action.applyAll (some (it.recast f g).outlet) event t.actions
      (it.recast f g).context = (context, outputs) := hrun
  unfold Interpreter.take
  rw [hrecast, hrun]
  dsimp only
  rw [performAll_recast]
  cases t.target with
  | none => rfl
  | some target =>
    dsimp only
    rw [leave_recast, enter_of_written fun entry => by rw [hoptions, h.written]]
    let entered : Interpreter S C E K O :=
      { (it.performAll .external outputs).leave.enter target event with
        snapshot := ⟨target, context,
          ((it.performAll .external outputs).leave.enter target event).definition.isFinal target⟩ }
    exact entered.launch_recast f g

variable [Label S]

/-- So is taking eventless transitions that come to an end, with more of them allowed. -/
lemma settleWithin (h : it.Recasts f g) {steps more : Nat} (hmore : steps ≤ more)
    (hok : (SameBound f ∧ steps = more) ∨ (it.settleWithin steps).2 = .ok ()) :
    (it.recast f g).settleWithin more =
      ((it.settleWithin steps).1.recast f g, (it.settleWithin steps).2) := by
  have hselect (here : Interpreter S C E K O) :
      (here.recast f g).definition.selectEventless (here.recast f g).state
        (here.recast f g).context =
      here.definition.selectEventless here.state here.context := rfl
  -- the machine rests, or it has no step left, or it takes the next step
  fun_induction Interpreter.settleWithin steps it generalizing more with
  | case1 steps it hsel => exact settleWithin_of_none ((hselect it).trans hsel) more
  | case2 it t hsel =>
    rcases hok with ⟨hsame, rfl⟩ | hok
    · rw [settleWithin_zero_of_some ((hselect it).trans hsel),
        show (it.recast f g).options.maxEventlessSteps = it.options.maxEventlessSteps from hsame _]
      rfl
    · cases hok
  | case3 it t steps hsel ih =>
    obtain ⟨more, rfl⟩ := Nat.exists_eq_succ_of_ne_zero (by omega : more ≠ 0)
    rw [settleWithin_succ_of_some ((hselect it).trans hsel), h.take]
    exact ih (h.afterTake t none) (by omega) (hok.imp_left fun ⟨hsame, heq⟩ => ⟨hsame, by omega⟩)

lemma settle (h : it.Recasts f g) (hok : SameBound f ∨ it.settle.2 = .ok ()) :
    (it.recast f g).settle = (it.settle.1.recast f g, it.settle.2) :=
  h.settleWithin h.allows (hok.imp_left fun hsame => ⟨hsame, (hsame _).symm⟩)

lemma booting (h : it.Recasts f g) (hok : SameBound f ∨ it.booting.2 = .ok ()) :
    (it.recast f g).booting = (it.booting.1.recast f g, it.booting.2) := by
  let begun : Interpreter S C E K O := { it with status := .running }.log (.started it.state)
  obtain ⟨told, hlaunch, -⟩ := launch_spec begun
  have hstays := hlaunch.stays
  have hlaunched : begun.launch.Recasts f g := by
    refine h.of_options ?_ hstays.options
    rw [Proper, state, hstays.snapshot, hstays.definition]
    exact h.proper
  have hlaunch' := begun.launch_recast f g
  change (begun.recast f g).launch.settle = (begun.launch.settle.1.recast _ _, _)
  rw [hlaunch']
  exact hlaunched.settle hok

variable [DecidableEq K]

/-- So is the resolution of an event. -/
lemma resolve (h : it.Recasts f g) (envelope : Envelope E)
    (hok : SameBound f ∨ (it.resolve envelope).2 = .ok ()) :
    (it.recast f g).resolve envelope =
      ((it.resolve envelope).1.recast f g, (it.resolve envelope).2) := by
  have hstale : (it.recast f g).staleGeneration? envelope = it.staleGeneration? envelope := rfl
  have hselect : (it.recast f g).definition.select (it.recast f g).state
    (it.recast f g).context envelope.event =
      it.definition.select it.state it.context envelope.event := rfl
  unfold Interpreter.resolve at hok ⊢
  rw [hstale, hselect]
  cases hgeneration : it.staleGeneration? envelope with
  | some generation => rfl
  | none =>
    rw [hgeneration] at hok
    dsimp only at hok ⊢
    cases ht : it.definition.select it.state it.context envelope.event with
    | none => rfl
    | some t =>
      rw [ht] at hok
      dsimp only at hok ⊢
      rw [h.take, (h.afterTake t (some envelope.event)).settle hok]
      exact Prod.ext (emit_recast ..) rfl

lemma step (h : it.Recasts f g) (envelope : Envelope E) (inbox : Inbox E)
    (hok : SameBound f ∨ (it.step envelope inbox).2 = .ok ()) :
    (it.recast f g).step envelope inbox =
      ((it.step envelope inbox).1.recast f g, (it.step envelope inbox).2) :=
  have hready : (it.receiving envelope inbox).Recasts f g := h.of_options h.proper rfl
  hready.resolve envelope hok

/-- Whatever happens to the interpreter, the options agree with those that it has. -/
lemma course (h : it.Recasts f g) (hcourse : it.Course it') : it'.Recasts f g := by
  obtain ⟨told, hfollows⟩ := Course.follows h.proper hcourse
  exact h.of_options hfollows.proper hfollows.options

/-- So is emptying the inbox. -/
theorem drain (h : it.Recasts f g) (budget : Nat)
    (hno : SameBound f ∨
      ∀ state steps, (it.drain budget).2 ≠ .error (.nonTerminatingChain state steps)) :
    (it.recast f g).drain budget = ((it.drain budget).1.recast f g, (it.drain budget).2) := by
  have hspec := drain_spec it budget
  generalize it.drain budget = r at hspec hno ⊢
  induction hspec with
  | @done here budget hdone =>
    have hrecast : (here.recast f g).status ≠ .running ∨
      (here.recast f g).inbox.waiting = [] := hdone
    exact drain_of_done hrecast _
  | @spent here hstatus hwaiting =>
    obtain ⟨envelope, behind, hsome⟩ := List.exists_cons_of_ne_nil hwaiting
    obtain ⟨inbox, hpop, -⟩ := pop?_of_waiting hsome
    have hrunning : (here.recast f g).status = .running := hstatus
    have hnext : (here.recast f g).inbox.pop? = some (envelope, inbox) := hpop
    exact drain_zero_of_pop hrunning hnext
  | @next here budget envelope inbox r hstatus hpop hok hrest ih =>
    have hrunning : (here.recast f g).status = .running := hstatus
    have hnext : (here.recast f g).inbox.pop? = some (envelope, inbox) := hpop
    have hstep := h.step envelope inbox (.inr hok)
    rw [drain_succ_of_ok hrunning hnext ((congrArg Prod.snd hstep).trans hok), hstep]
    exact ih (h.course (.single (.turn hstatus hpop))) hno
  | @failed here budget envelope inbox error hstatus hpop herr =>
    have hrunning : (here.recast f g).status = .running := hstatus
    have hnext : (here.recast f g).inbox.pop? = some (envelope, inbox) := hpop
    -- an event fails only if eventless transitions are cut
    have hsame : SameBound f := hno.resolve_right fun hno => by
      obtain ⟨state, steps, rfl⟩ := step_eq_error herr
      exact hno state steps rfl
    have hstep := h.step envelope inbox (.inl hsame)
    rw [drain_succ_of_error hrunning hnext ((congrArg Prod.snd hstep).trans herr), hstep]

/-- So is the start. -/
theorem start (h : it.Recasts f g) (budget : Nat)
    (hno : SameBound f ∨ ¬it.Cuts (.start budget)) :
    (it.recast f g).start budget = ((it.start budget).1.recast f g, (it.start budget).2) := by
  have hrecast : (it.recast f g).status = it.status := rfl
  cases hstatus : it.status with
  | running => rw [start_of_running hstatus, start_of_running (hrecast.trans hstatus)]; rfl
  | stopped => rw [start_of_stopped hstatus, start_of_stopped (hrecast.trans hstatus)]; rfl
  | notStarted =>
    have hok : SameBound f ∨ it.booting.2 = .ok () := by
      refine hno.imp_right fun hno => ?_
      cases hend : it.booting.2 with
      | ok u => rfl
      | error error =>
        obtain ⟨state, steps, rfl⟩ := verdict_eq_error ((booting_verdict it).symm.trans hend)
        exact absurd ⟨state, steps, by rw [start_of_error hstatus hend]⟩ hno
    have hbooting := h.booting hok
    have hbooted : (it.recast f g).booted = it.booted.recast f g := by
      rw [booted, hbooting]
      exact emit_recast ..
    cases hend : it.booting.2 with
    | ok u =>
      rw [Cuts, start_of_ok hstatus hend] at hno
      have hdrained := (h.course (.single (.boot hstatus))).drain budget
        (hno.imp_right fun hno state steps herr => hno ⟨state, steps, by rw [herr]; rfl⟩)
      rw [start_of_ok hstatus hend, start_of_ok (hrecast.trans hstatus)
        ((congrArg Prod.snd hbooting).trans hend), hbooted, hdrained]
      rfl
    | error error =>
      rw [start_of_error hstatus hend, start_of_error (hrecast.trans hstatus)
        ((congrArg Prod.snd hbooting).trans hend), hbooted]

/-- So is sending an event. -/
theorem send (h : it.Recasts f g) (budget : Nat) (event : E)
    (hno : SameBound f ∨ ¬it.Cuts (.send budget event)) :
    (it.recast f g).send budget event =
      ((it.send budget event).1.recast f g, (it.send budget event).2) := by
  have hrecast : (it.recast f g).status = it.status := rfl
  cases hstatus : it.status with
  | running =>
    rw [Cuts, send_of_running hstatus] at hno
    rw [send_of_running hstatus, send_of_running (hrecast.trans hstatus), enqueue_recast]
    refine (h.course (.single (.post .external event))).drain budget ?_
    exact hno.imp_right fun hno state steps herr => hno ⟨state, steps, herr⟩
  | notStarted =>
    simp only [Interpreter.send, hrecast, hstatus]
    rw [show (it.recast f g).options.deferEvents = it.options.deferEvents from h.defers]
    split
    · exact Prod.ext ((it.log (.deferred event)).enqueue_recast ..) rfl
    · rfl
  | stopped =>
    simp only [Interpreter.send, hrecast, hstatus]
    rfl

/-- So is processing the next event. -/
theorem processNext (h : it.Recasts f g) (budget : Nat)
    (hno : SameBound f ∨ ¬it.Cuts (.processNext budget)) :
    (it.recast f g).processNext budget =
      ((it.processNext budget).1.recast f g, (it.processNext budget).2) := by
  by_cases hstatus : it.status = .running
  · have hrunning : (it.recast f g).status = .running := hstatus
    by_cases hempty : it.inbox.queue.isEmpty = true
    · rw [processNext_of_waiting hstatus hempty, processNext_of_waiting hrunning hempty]
    · have hpending : ¬(it.recast f g).inbox.queue.isEmpty = true := hempty
      have hdrained := h.drain budget (hno.imp_right fun hno state steps herr =>
        hno ⟨state, steps, congrArg Prod.snd (processNext_of_error hstatus hempty herr)⟩)
      have hresult := congrArg Prod.snd hdrained
      cases hend : (it.drain budget).2 with
      | ok u =>
        rw [processNext_of_ok hstatus hempty hend,
          processNext_of_ok hrunning hpending (hresult.trans hend), hdrained]
        rfl
      | error error =>
        rw [processNext_of_error hstatus hempty hend,
          processNext_of_error hrunning hpending (hresult.trans hend), hdrained]
  · have hidle : (it.recast f g).status ≠ .running := hstatus
    rw [processNext_of_not_running hstatus, processNext_of_not_running hidle]

end Recasts

/-! ## Calls -/

/-- What a call returns. -/
inductive Outcome (S C : Type)
  | started (result : Except InterpreterError (Snapshot S C))
  | sent (result : Except InterpreterError Unit)
  | processed (next : Next S C)
  | stopped (failures : List EffectError)
  | posted (accepted : Bool)
  | subscribed (id : Nat)
  | unsubscribed (present : Bool)
  | warned (warnings : List EffectError)
  | passed

variable [Label S] [DecidableEq K]

/-- What a call on an interpreter returns. -/
def outcome (it : Interpreter S C E K O) : Call S C E O → Outcome S C
  | .start budget => .started (it.start budget).2
  | .send budget event => .sent (it.send budget event).2
  | .processNext budget => .processed (it.processNext budget).2
  | .stop => .stopped it.stop.2
  | .post _ _ => .posted it.inbox.accepting
  | .subscribe react => .subscribed (it.subscribe react).2
  | .unsubscribe id => .unsubscribed (it.unsubscribe id).2
  | .takeWarnings => .warned it.takeWarnings.2
  | .advance _ _ => .passed

/-- What calls return that are made one after the other. -/
def outcomes : Interpreter S C E K O → List (Call S C E O) → List (Outcome S C)
  | _, [] => []
  | it, call :: calls => it.outcome call :: (it.after call).outcomes calls

namespace Recasts

variable {f : Options → Options} {g : History S → History S}

/-- So is every call. -/
theorem after (h : it.Recasts f g) (call : Call S C E O) (hno : SameBound f ∨ ¬it.Cuts call) :
    (it.recast f g).after call = (it.after call).recast f g ∧
      (it.recast f g).outcome call = it.outcome call := by
  cases call with
  | start budget => simp only [Interpreter.after, outcome, h.start budget hno, and_self]
  | send budget event => simp only [Interpreter.after, outcome, h.send budget event hno, and_self]
  | processNext budget => simp only [Interpreter.after, outcome, h.processNext budget hno, and_self]
  | stop => simp only [Interpreter.after, outcome, stop_recast, and_self]
  | post origin event => exact ⟨enqueue_recast .., rfl⟩
  | subscribe react => simp only [Interpreter.after, outcome, subscribe_recast, and_self]
  | unsubscribe id => exact ⟨rfl, rfl⟩
  | takeWarnings => exact ⟨rfl, rfl⟩
  | advance time most => exact ⟨advanceTo_recast .., rfl⟩

/-- So is any number of calls. -/
theorem foldl_after (h : it.Recasts f g) (calls : List (Call S C E O))
    (hno : SameBound f ∨ ∀ before call rest, calls = before ++ call :: rest →
      ¬(before.foldl Interpreter.after it).Cuts call) :
    calls.foldl Interpreter.after (it.recast f g) =
        (calls.foldl Interpreter.after it).recast f g ∧
      (it.recast f g).outcomes calls = it.outcomes calls := by
  induction calls generalizing it with
  | nil => exact ⟨rfl, rfl⟩
  | cons call calls ih =>
    obtain ⟨hafter, houtcome⟩ := h.after call (hno.imp_right fun hno => hno [] call calls rfl)
    obtain ⟨hcalls, houtcomes⟩ := ih (h.course (after_course it call))
      (hno.imp_right fun hno before next rest hrest =>
        hno (call :: before) next rest (by rw [hrest, List.cons_append]))
    rw [List.foldl_cons, outcomes, hafter, houtcome, houtcomes]
    exact ⟨hcalls, rfl⟩

end Recasts

end

end Interpreter

end Macrostep
