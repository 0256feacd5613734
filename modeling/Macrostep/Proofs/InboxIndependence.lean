/-
# What waits does not matter

No move of an interpreter looks at the events that wait or at the journal; it only adds to both.
`it.amid queue recorded` is `it` with another queue and another journal, and a move is indifferent
at `it` if it does the same amid every queue and every journal: the same events come to the end of
the queue, the same occurrences to the journal, and all else is as it would be at `it`.  Up to the
resolution of an event everything is indifferent (`Interpreter.resolve_impartial`).
-/
import Macrostep.Proofs.Stretch

namespace Macrostep

/-- A queue with more elements at its end. -/
def Queue.pushAll {A : Type} (queue : Queue A) (more : List A) : Queue A :=
  more.foldl push queue

@[simp] lemma Queue.toList_pushAll {A : Type} (queue : Queue A) (more : List A) :
    (queue.pushAll more).toList = queue.toList ++ more := by
  induction more generalizing queue with
  | nil => simp [pushAll]
  | cons a more ih =>
    have hrest : (queue.pushAll (a :: more)).toList = ((queue.push a).pushAll more).toList := rfl
    rw [hrest, ih, toList_push, List.append_assoc]
    rfl

lemma Queue.pushAll_append {A : Type} (queue : Queue A) (l more : List A) :
    queue.pushAll (l ++ more) = (queue.pushAll l).pushAll more :=
  List.foldl_append

namespace Interpreter

variable {S C E K O : Type}

/-- The interpreter with another queue and another journal. -/
def amid (it : Interpreter S C E K O) (queue : Queue (Envelope E))
    (recorded : List (Occurrence S C E O)) : Interpreter S C E K O :=
  { it with inbox := { it.inbox with queue }, recorded }

/-- At `it` the move `f` does the same whatever waits and whatever has been written. -/
def Indifferent (f : Interpreter S C E K O → Interpreter S C E K O)
    (it : Interpreter S C E K O) : Prop :=
  ∃ (sent : List (Envelope E)) (told : List (Occurrence S C E O)), ∀ queue recorded,
    f (it.amid queue recorded) = (f it).amid (queue.pushAll sent) (told ++ recorded)

namespace Indifferent

variable {f g : Interpreter S C E K O → Interpreter S C E K O} {it : Interpreter S C E K O}

/-- A change of something else. -/
lemma of_amid (h : ∀ queue recorded, f (it.amid queue recorded) = (f it).amid queue recorded) :
    Indifferent f it :=
  ⟨[], [], h⟩

lemma comp (hf : Indifferent f it) (hg : Indifferent g (f it)) :
    Indifferent (fun it => g (f it)) it := by
  obtain ⟨sent, told, hf⟩ := hf
  obtain ⟨sent', told', hg⟩ := hg
  refine ⟨sent ++ sent', told' ++ told, fun queue recorded => ?_⟩
  change g (f (it.amid queue recorded)) = _
  rw [hf, hg, Queue.pushAll_append, List.append_assoc]

/-- Moves that do the same at `it` over every queue and journal are alike. -/
lemma congr (hg : Indifferent g it) (h : f it = g it)
    (hamid : ∀ queue recorded, f (it.amid queue recorded) = g (it.amid queue recorded)) :
    Indifferent f it := by
  obtain ⟨sent, told, hg⟩ := hg
  refine ⟨sent, told, fun queue recorded => ?_⟩
  rw [hamid, hg, h]

lemma log (it : Interpreter S C E K O) (o : Occurrence S C E O) :
    Indifferent (fun it => it.log o) it :=
  ⟨[], [o], fun _ _ => rfl⟩

end Indifferent

/-- At `it` the move `f` and its result are the same whatever waits and whatever has been
written. -/
def Impartial {R : Type} (f : Interpreter S C E K O → Interpreter S C E K O × R)
    (it : Interpreter S C E K O) : Prop :=
  Indifferent (fun it => (f it).1) it ∧
    ∀ queue recorded, (f (it.amid queue recorded)).2 = (f it).2

section

variable {R : Type} {f g : Interpreter S C E K O → Interpreter S C E K O × R}
  {h : Interpreter S C E K O → Interpreter S C E K O} {it : Interpreter S C E K O}

lemma Indifferent.withResult (hh : Indifferent h it) (result : R) :
    Impartial (fun it => (h it, result)) it :=
  ⟨hh, fun _ _ => rfl⟩

lemma Impartial.congr (hg : Impartial g it) (heq : f it = g it)
    (hamid : ∀ queue recorded, f (it.amid queue recorded) = g (it.amid queue recorded)) :
    Impartial f it := by
  refine ⟨hg.1.congr (congrArg Prod.fst heq) fun queue recorded => ?_, fun queue recorded => ?_⟩
  · rw [hamid]
  · rw [hamid, heq, hg.2]

/-- First a move without a result. -/
lemma Impartial.after (hg : Impartial g (h it)) (hh : Indifferent h it) :
    Impartial (fun it => g (h it)) it := by
  refine ⟨hh.comp hg.1, fun queue recorded => ?_⟩
  obtain ⟨sent, told, hh⟩ := hh
  change (g (h (it.amid queue recorded))).2 = _
  rw [hh, hg.2]

/-- Then a move without a result. -/
lemma Impartial.before (hf : Impartial f it) (hh : Indifferent h (f it).1) :
    Impartial (fun it => (h (f it).1, (f it).2)) it :=
  ⟨hf.1.comp hh, hf.2⟩

end

variable (it : Interpreter S C E K O)

lemma enqueue_indifferent (origin : Origin) (event : E) :
    Indifferent (fun it => it.enqueue origin event) it := by
  cases h : it.inbox.accepting with
  | true =>
    refine ⟨[⟨event, origin⟩], [.accepted ⟨event, origin⟩], fun queue recorded => ?_⟩
    have hamid : (it.amid queue recorded).inbox.accepting = true := h
    simp only [enqueue, h, hamid, if_true, Inbox.push]
    rfl
  | false =>
    refine ⟨[], [.refused ⟨event, origin⟩], fun queue recorded => ?_⟩
    have hamid : (it.amid queue recorded).inbox.accepting = false := h
    simp only [enqueue, h, hamid]
    rfl

lemma perform_indifferent (origin : Origin) (output : Output E O) :
    Indifferent (fun it => it.perform origin output) it := by
  cases output with
  | send event => exact enqueue_indifferent it origin event
  | note content => exact Indifferent.log it _
  | share => exact Indifferent.log it _

lemma performAll_indifferent (origin : Origin) (outputs : List (Output E O)) :
    Indifferent (fun it => it.performAll origin outputs) it := by
  induction outputs generalizing it with
  | nil => exact .of_amid fun _ _ => rfl
  | cons output outputs ih => exact (perform_indifferent it origin output).comp (ih _)

/-! ## Taking a transition -/

lemma attempted_indifferent (generation : Nat) (result : Except EffectError (Handle E O)) :
    Indifferent (attempted generation result) it := by
  cases result with
  | ok handle => exact ⟨[], [.launched handle.id generation], fun _ _ => rfl⟩
  | error error => exact ⟨[], [.launchFailed error], fun _ _ => rfl⟩

variable [DecidableEq S]

lemma launch_indifferent : Indifferent launch it := by
  cases heffect : it.definition.effect? it.state with
  | none =>
    refine .of_amid fun queue recorded => ?_
    have hamid : (it.amid queue recorded).launch = it.amid queue recorded :=
      launch_of_none heffect
    rw [hamid, launch_of_none heffect]
  | some effect =>
    have hbegin : Indifferent attempting it :=
      ⟨[], [.launching it.state it.context (it.generation + 1)], fun _ _ => rfl⟩
    have hstart := hbegin.comp
      (performAll_indifferent _ (.effect (it.generation + 1)) (startup effect it).outputs)
    have hend := attempted_indifferent (it.attempting.performAll (.effect (it.generation + 1))
      (startup effect it).outputs) (it.generation + 1) (startup effect it).result
    exact (hstart.comp hend).congr (launch_of_some heffect)
      fun queue recorded => launch_of_some heffect

omit [DecidableEq S] in
lemma release_impartial : Impartial release it := by
  cases hactive : it.effect with
  | none =>
    have hstay : Indifferent (fun here => here) it := .of_amid fun _ _ => rfl
    exact (hstay.withResult none).congr (release_of_none hactive)
      fun queue recorded => release_of_none hactive
  | some active =>
    have hclean : Indifferent
        (fun here => { here with effect := none }.log (.cleaned active.generation)) it :=
      ⟨[], [.cleaned active.generation], fun _ _ => rfl⟩
    have hperform := hclean.comp (performAll_indifferent _ (.effect active.generation)
      (active.handle.ending it.inbox.accepting).outputs)
    exact (hperform.withResult (active.handle.failure? it.inbox.accepting)).congr
      (release_of_some hactive) fun queue recorded => release_of_some hactive

omit [DecidableEq S] in
lemma leave_indifferent : Indifferent leave it := by
  obtain ⟨hrelease, hfailure⟩ := release_impartial it
  have hleave (here : Interpreter S C E K O) : here.leave =
      match here.release.2 with
      | none => here.release.1
      | some error => { here.release.1 with
          warnings := here.release.1.warnings ++ [error] }.log (.cleanupFailed error) := by
    unfold leave
    generalize here.release = r
    obtain ⟨last, failure⟩ := r
    cases failure <;> rfl
  cases hresult : it.release.2 with
  | none =>
    refine hrelease.congr ?_ fun queue recorded => ?_
    · rw [hleave, hresult]
    · rw [hleave, hfailure, hresult]
  | some error =>
    have hwarn : Indifferent (fun here => { here with
        warnings := here.warnings ++ [error] }.log (.cleanupFailed error)) it.release.1 :=
      ⟨[], [.cleanupFailed error], fun _ _ => rfl⟩
    refine (hrelease.comp hwarn).congr ?_ fun queue recorded => ?_
    · rw [hleave, hresult]
    · rw [hleave, hfailure, hresult]

variable [Label S] [DecidableEq K] [Kinded E K]

omit [DecidableEq S] [Label S] [DecidableEq K] in
lemma enter_indifferent (target : S) (event : Option E) :
    Indifferent (fun it => it.enter target event) it := by
  refine ⟨[], [.transitioned it.state target event], fun queue recorded => ?_⟩
  unfold enter
  cases h : it.options.recordHistory with
  | true => simp only [log, amid, h, if_true]; rfl
  | false => simp only [log, amid, h]; rfl

omit [Label S] [DecidableEq K] in
lemma take_indifferent (t : Transition S C E O) (event : Option E) :
    Indifferent (fun it => it.take t event) it := by
  obtain ⟨context, outputs, happly⟩ : ∃ context outputs,
      Action.applyAll (some it.outlet) event t.actions it.context = (context, outputs) :=
    ⟨_, _, rfl⟩
  have happly' (queue recorded) : Action.applyAll (some (it.amid queue recorded).outlet) event
      t.actions (it.amid queue recorded).context = (context, outputs) := happly
  have hperform := performAll_indifferent it .external outputs
  cases htarget : t.target with
  | none =>
    have hchange : Indifferent
        (fun here => { here with snapshot := { here.snapshot with context } })
        (it.performAll .external outputs) := .of_amid fun _ _ => rfl
    refine (hperform.comp hchange).congr ?_ fun queue recorded => ?_
    · simp only [take, happly, htarget]
    · simp only [take, happly', htarget]
  | some target =>
    have hchange (here : Interpreter S C E K O) : Indifferent
        (fun here => { here with snapshot := ⟨target, context, here.definition.isFinal target⟩ })
        here := .of_amid fun _ _ => rfl
    -- the actions send, the state is left, the target is entered, and then its effect is launched
    have hway := ((hperform.comp (leave_indifferent _)).comp
      (enter_indifferent _ target event)).comp (hchange _)
    refine (hway.comp (launch_indifferent _)).congr ?_ fun queue recorded => ?_
    · simp only [take, happly, htarget]
    · simp only [take, happly', htarget]

omit [DecidableEq K] in
lemma settleWithin_impartial (steps : Nat) : Impartial (settleWithin steps) it := by
  induction steps generalizing it with
  | zero =>
    cases hsel : it.definition.selectEventless it.state it.context with
    | none =>
      have hamid (queue recorded) : (it.amid queue recorded).settleWithin 0 = _ :=
        settleWithin_of_none (by exact hsel) 0
      have hstay : Indifferent (fun here => here) it := .of_amid fun _ _ => rfl
      exact (hstay.withResult (.ok ())).congr (settleWithin_of_none hsel 0) hamid
    | some t =>
      have hamid (queue recorded) : (it.amid queue recorded).settleWithin 0 = _ :=
        settleWithin_zero_of_some (by exact hsel)
      exact ((Indifferent.log it _).withResult _).congr (settleWithin_zero_of_some hsel) hamid
  | succ steps ih =>
    cases hsel : it.definition.selectEventless it.state it.context with
    | none =>
      have hamid (queue recorded) : (it.amid queue recorded).settleWithin (steps + 1) = _ :=
        settleWithin_of_none (by exact hsel) (steps + 1)
      have hstay : Indifferent (fun here => here) it := .of_amid fun _ _ => rfl
      exact (hstay.withResult (.ok ())).congr (settleWithin_of_none hsel (steps + 1)) hamid
    | some t =>
      have hamid (queue recorded) : (it.amid queue recorded).settleWithin (steps + 1) = _ :=
        settleWithin_succ_of_some (by exact hsel) steps
      exact ((ih (it.take t none)).after (take_indifferent it t none)).congr
        (settleWithin_succ_of_some hsel steps) hamid

omit [DecidableEq K] in
lemma settle_impartial : Impartial settle it :=
  settleWithin_impartial it it.options.maxEventlessSteps

/-! ## Publication -/

omit [DecidableEq S] [Label S] [DecidableEq K] [Kinded E K] in
lemma showTo_indifferent (subscriber : Subscriber S C E O) :
    Indifferent (fun it => it.showTo subscriber) it :=
  (Indifferent.log it (.observed subscriber.id it.snapshot)).comp
    (performAll_indifferent _ .external (subscriber.react subscriber.seen it.snapshot))

omit [DecidableEq S] [Label S] [DecidableEq K] [Kinded E K] in
lemma foldl_showTo_indifferent (subscribers : List (Subscriber S C E O)) :
    Indifferent (fun it => subscribers.foldl showTo it) it := by
  induction subscribers generalizing it with
  | nil => exact .of_amid fun _ _ => rfl
  | cons subscriber subscribers ih => exact (showTo_indifferent it subscriber).comp (ih _)

omit [DecidableEq S] [Label S] [DecidableEq K] [Kinded E K] in
lemma emit_indifferent : Indifferent emit it := by
  have htell : Indifferent (fun here => { here with
      watched := ⟨it.snapshot, it.watched.version + 1⟩ }.log (.emitted it.snapshot)) it :=
    ⟨[], [.emitted it.snapshot], fun _ _ => rfl⟩
  have hmark (here : Interpreter S C E K O) : Indifferent (fun here => { here with
      subscribers := it.subscribers.map fun s => { s with seen := it.snapshot :: s.seen } }) here :=
    .of_amid fun _ _ => rfl
  exact ((htell.comp (foldl_showTo_indifferent _ it.subscribers)).comp (hmark _)).congr rfl
    fun _ _ => rfl

/-! ## The resolution of an event -/

/-- The resolution of an event does not look at what waits. -/
theorem resolve_impartial (envelope : Envelope E) :
    Impartial (fun it => it.resolve envelope) it := by
  cases hstale : it.staleGeneration? envelope with
  | some generation =>
    have hresolve {here : Interpreter S C E K O}
        (h : here.staleGeneration? envelope = some generation) :
        here.resolve envelope = (here.log (.stale envelope.event generation), .ok ()) := by
      simp only [resolve, h]
    exact ((Indifferent.log it _).withResult _).congr (hresolve hstale)
      fun queue recorded => hresolve (by exact hstale)
  | none =>
    cases hselect : it.definition.select it.state it.context envelope.event with
    | none =>
      have hresolve {here : Interpreter S C E K O} (h : here.staleGeneration? envelope = none)
          (h' : here.definition.select here.state here.context envelope.event = none) :
          here.resolve envelope = (here.log (.unhandled here.state envelope.event), .ok ()) := by
        simp only [resolve, h, h']
      exact ((Indifferent.log it _).withResult _).congr (hresolve hstale hselect)
        fun queue recorded => hresolve (by exact hstale) (by exact hselect)
    | some t =>
      have hresolve {here : Interpreter S C E K O} (h : here.staleGeneration? envelope = none)
          (h' : here.definition.select here.state here.context envelope.event = some t) :
          here.resolve envelope =
            ((here.take t (some envelope.event)).settle.1.emit,
              (here.take t (some envelope.event)).settle.2) := by
        simp only [resolve, h, h']
      have htake := take_indifferent it t (some envelope.event)
      exact (((settle_impartial _).after htake).before (emit_indifferent _)).congr
        (hresolve hstale hselect) fun queue recorded =>
          hresolve (by exact hstale) (by exact hselect)

end Interpreter

end Macrostep
