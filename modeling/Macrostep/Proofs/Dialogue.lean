/-
# Dialogues

A machine is plain if nothing happens in it by itself (`Definition.Plain`): its effects are silent,
its actions queue nothing, and no transition goes without an event.  If its observers are mute as
well, then a running interpreter does nothing but answer: every event that is sent is resolved at
once, by one transition or by none.

So a dialogue, in which events are sent one after the other, is told by the step function of the
definition alone (`Interpreter.Dialogue.course`).  It ends where the fold of that function ends
(`follow`), and one position is published for the start and one for each event that is accepted
(`trail`).  Both can be read through any view of the positions on which the machine acts as a
simpler step function.
-/
import Macrostep.Proofs.CanQuery
import Macrostep.Proofs.NoQueueing
import Macrostep.Proofs.Resumption

namespace Macrostep

open Occurrence

/-! ## Steps that may be refused -/

section

variable {P Q E : Type} (next? : P → E → Option P)

/-- Where a list of events leads; an event that is refused leads nowhere. -/
def follow (p : P) (events : List E) : P := events.foldl (fun p event => (next? p event).getD p) p

/-- Where each of the events leads that are not refused. -/
def trail : P → List E → List P
  | _, [] => []
  | p, event :: events =>
    match next? p event with
    | none => trail p events
    | some q => q :: trail q events

variable {next?} {ref? : Q → E → Option Q} {view : P → Q}

lemma follow_map (h : ∀ p event, (next? p event).map view = ref? (view p) event) (p : P)
    (events : List E) : view (follow next? p events) = follow ref? (view p) events := by
  induction events generalizing p with
  | nil => rfl
  | cons event events ih =>
    have hstep : view ((next? p event).getD p) = (ref? (view p) event).getD (view p) := by
      rw [← h]
      cases next? p event <;> rfl
    exact (ih _).trans (congrArg (follow ref? · events) hstep)

lemma trail_map (h : ∀ p event, (next? p event).map view = ref? (view p) event) (p : P)
    (events : List E) : (trail next? p events).map view = trail ref? (view p) events := by
  induction events generalizing p with
  | nil => rfl
  | cons event events ih =>
    rw [trail, trail, ← h]
    cases next? p event with
    | none => exact ih p
    | some q => exact congrArg (view q :: ·) (ih q)

/-- What every step keeps holds at the end. -/
lemma follow_induction {I : P → Prop} (hstep : ∀ p event q, next? p event = some q → I p → I q)
    {p : P} (hp : I p) (events : List E) : I (follow next? p events) := by
  induction events generalizing p with
  | nil => exact hp
  | cons event events ih =>
    refine ih (p := (next? p event).getD p) ?_
    cases hnext : next? p event with
    | none => exact hp
    | some q => exact hstep p event q hnext hp

end

/-! ## Plain machines -/

/-- A machine in which nothing happens by itself. -/
structure Definition.Plain {S C E K O : Type} [DecidableEq S] [DecidableEq K] [Kinded E K]
    (d : Definition S C E K O) : Prop where
  silent : d.Silent
  tacit : d.Tacit
  rests (s : Snapshot S C) : d.rests s = true

/-- A machine that has neither effects nor transitions without an event is plain if its transitions
do nothing but assign. -/
lemma Definition.Plain.of_assigning {S C E K O : Type} [DecidableEq S] [DecidableEq K] [Kinded E K]
    {d : Definition S C E K O} (heffect : ∀ state, d.effect? state = none)
    (heventless : ∀ state context, d.selectEventless state context = none)
    (hselect : ∀ state context event t, d.select state context event = some t →
      ∀ run, .exec run ∉ t.actions) : d.Plain where
  silent state effect h := by
    rw [heffect] at h
    cases h
  tacit :=
    { select := fun h run hrun => absurd hrun (hselect _ _ _ _ h run)
      selectEventless := fun {state context _} h => by
        rw [heventless state context] at h
        cases h }
  rests s := by
    rw [Definition.rests, heventless]
    rfl

namespace Interpreter

variable {S C E K O : Type} [DecidableEq S] {it it' it₀ it₁ : Interpreter S C E K O}
  {d : Definition S C E K O} {options : Options}

omit [DecidableEq S] in
/-- Publications are progress. -/
lemma emitted_progress (it : Interpreter S C E K O) :
    it.progress.filterMap emitted? = it.journal.filterMap emitted? := by
  rw [progress, List.filterMap_filter]
  congr 1
  funext o
  cases o <;> rfl

lemma Proper.congr (h : it.Proper) (hdefinition : it'.definition = it.definition)
    (hsnapshot : it'.snapshot = it.snapshot) : it'.Proper := by
  rw [Proper, state, hdefinition, hsnapshot]
  exact h

/-- Nobody but callers sends anything to `it`, and nothing waits in it. -/
structure Undisturbed (d : Definition S C E K O) (it : Interpreter S C E K O) : Prop where
  definition : it.definition = d
  proper : it.Proper
  accepting : it.inbox.accepting = true
  waiting : it.inbox.waiting = []
  quiet : it.Quiet

namespace Undisturbed

lemma hushed (h : Undisturbed d it) (hhushed : it.Hushed it') : Undisturbed d it' where
  definition := hhushed.definition.trans h.definition
  proper := h.proper.congr hhushed.definition hhushed.snapshot
  accepting := hhushed.inbox ▸ h.accepting
  waiting := hhushed.inbox ▸ h.waiting
  quiet := hhushed.quiet

lemma awakened (h : Undisturbed d it) (hawakened : it.Awakened it') : Undisturbed d it' where
  definition := hawakened.definition.trans h.definition
  proper := h.proper.congr hawakened.definition hawakened.snapshot
  accepting := hawakened.inbox ▸ h.accepting
  waiting := hawakened.inbox ▸ h.waiting
  quiet := hawakened.quiet

variable [Label S] [DecidableEq K] [Kinded E K]

/-- A new interpreter is undisturbed. -/
lemma fresh (hsilent : d.Silent) (hfresh : Fresh d options it) : Undisturbed d it := by
  have hblank := hfresh.blank
  obtain ⟨now, timers, hplaced⟩ := hfresh.exists_placed
  refine ⟨hblank.definition, hblank.proper, ?_, ?_, Course.quiet hsilent hfresh .refl ?_⟩
  · rw [hblank.inbox]
    rfl
  · rw [hblank.inbox]
    rfl
  · rw [hplaced]
    exact nofun

/-- An event that is sent is answered at once: by one transition, whose end is published, or by
none. -/
lemma send (hplain : d.Plain) (h : Undisturbed d it) (hrunning : it.status = .running)
    (event : E) (budget : Nat) :
    let r := it.send (budget + 1) event
    r.2 = .ok () ∧ Undisturbed d r.1 ∧ r.1.status = .running ∧
      r.1.snapshot = (d.transition it.snapshot event).getD it.snapshot ∧
      r.1.journal.filterMap emitted? =
        it.journal.filterMap emitted? ++ (d.transition it.snapshot event).toList := by
  obtain rfl := h.definition
  cases hnext : it.definition.transition it.snapshot event with
  | none =>
    have hcan : it.can event = false := by
      rw [can_eq_isSome hrunning, hnext]
      rfl
    rw [send_of_not_can hrunning h.accepting h.waiting hcan]
    refine ⟨rfl, ⟨rfl, h.proper, h.accepting, h.waiting, h.quiet.elsewhere⟩, hrunning, rfl, ?_⟩
    simp [journal, emitted?]
  | some s =>
    let heard := it.hearing event
    obtain ⟨told, hfollows⟩ := Course.follows h.proper (Course.send it (budget + 1) event)
    have hreticent : Reticent it.inbox (heard.resolve ⟨event, .external⟩).1 := by
      have hheard : Reticent it.inbox heard := ⟨h.quiet.elsewhere, hplain.tacit, rfl⟩
      exact hheard.resolve _
    have hproper : heard.Proper := h.proper
    have haccept : heard.staleGeneration? ⟨event, .external⟩ = none := rfl
    obtain ⟨hshown, hverdict⟩ := resolve_of_transition hproper haccept hnext
    have hrests : heard.definition.rests s = true := hplain.rests s
    rw [chain_of_rests hrests, Leg.endOf_nil] at hshown hverdict
    have hok : (heard.resolve ⟨event, .external⟩).2 = .ok () := hverdict.trans (if_pos hrests)
    have hempty : (heard.resolve ⟨event, .external⟩).1.inbox.waiting = [] := by
      rw [hreticent.same, h.waiting]
    have hsend : it.send (budget + 1) event = ((heard.resolve ⟨event, .external⟩).1, .ok ()) := by
      obtain ⟨hdrain, -⟩ := send_of_idle hrunning h.accepting h.waiting event budget
      rw [hdrain hok, drain_of_done (.inr hempty)]
    rw [hsend] at hfollows ⊢
    refine ⟨rfl, ⟨hfollows.definition, hfollows.proper, ?_, hempty, hreticent.quiet⟩, ?_,
      hshown.snapshot, ?_⟩
    · rw [hreticent.same, h.accepting]
    · exact (step_status (it.log (.accepted ⟨event, .external⟩)) _ it.inbox).trans hrunning
    · obtain ⟨told, hjournal, hemitted⟩ := hshown.emitted
      rw [hjournal, List.filterMap_append, hemitted]
      simp [heard, hearing, emitted?]

/-- Events are sent one after the other, with pauses. -/
theorem served {requests : List (Nat × E)} {results : List (Except InterpreterError Unit)}
    (hplain : d.Plain) (h : Undisturbed d it) (hrunning : it.status = .running)
    (hserved : it.Served requests results it')
    (hbudget : ∀ request ∈ requests, 0 < request.1) :
    (∀ result ∈ results, result = .ok ()) ∧ Undisturbed d it' ∧ it'.status = .running ∧
      it'.snapshot = follow d.transition it.snapshot (requests.map Prod.snd) ∧
      it'.journal.filterMap emitted? =
        it.journal.filterMap emitted? ++
          trail d.transition it.snapshot (requests.map Prod.snd) := by
  have hpaused {here there : Interpreter S C E K O} (h : Undisturbed d here)
      (hpauses : here.Pauses there) :
      Undisturbed d there ∧ there.status = here.status ∧ there.snapshot = here.snapshot ∧
        there.journal.filterMap emitted? = here.journal.filterMap emitted? := by
    have hhushed := hpauses.hushed h.quiet
    refine ⟨h.hushed hhushed, hhushed.status, hhushed.snapshot, ?_⟩
    rw [← emitted_progress, hhushed.progress, emitted_progress]
  induction hserved with
  | done hpauses =>
    obtain ⟨hpaused, hstatus, hsnapshot, hemitted⟩ := hpaused h hpauses
    exact ⟨nofun, hpaused, hstatus.trans hrunning, hsnapshot,
      hemitted.trans (List.append_nil _).symm⟩
  | @next it it₁ it' budget event rest results hpauses hrest ih =>
    obtain ⟨hpaused, hstatus, hsnapshot, hemitted⟩ := hpaused h hpauses
    rw [List.forall_mem_cons] at hbudget
    obtain ⟨budget, rfl⟩ := Nat.exists_eq_succ_of_ne_zero (Nat.ne_of_gt hbudget.1)
    obtain ⟨hok, hsent, hrunning', hmoved, htold⟩ :=
      hpaused.send hplain (hstatus.trans hrunning) event budget
    obtain ⟨hresults, hlast, hlastRunning, hend, hall⟩ := ih hsent hrunning' hbudget.2
    rw [hmoved, hsnapshot] at hend hall
    rw [htold, hemitted, hsnapshot] at hall
    refine ⟨List.forall_mem_cons.mpr ⟨hok, hresults⟩, hlast, hlastRunning, hend, ?_⟩
    rw [hall, List.append_assoc, List.map_cons, trail]
    cases d.transition it.snapshot event <;> rfl

end Undisturbed

/-! ## From the beginning -/

variable [Label S] [DecidableEq K] [Kinded E K]

/-- A new interpreter is started, and events are sent to it one after the other, each by a call that
may resolve one event at least.  Meanwhile time may pass, and observers that send nothing may come
and go.  What the calls return is listed, that of the start without its position. -/
def Dialogue (it₀ : Interpreter S C E K O) (events : List E)
    (results : List (Except InterpreterError Unit)) (it : Interpreter S C E K O) : Prop :=
  ∃ it₁ budget requests sent, it₀.Pauses it₁ ∧ (it₁.start budget).1.Served requests sent it ∧
    requests.map Prod.snd = events ∧ (∀ request ∈ requests, 0 < request.1) ∧
    results = (it₁.start budget).2.map (fun _ => ()) :: sent

lemma exists_served (it : Interpreter S C E K O) (requests : List (Nat × E)) :
    ∃ results it', it.Served requests results it' := by
  induction requests generalizing it with
  | nil => exact ⟨[], it, .done .refl⟩
  | cons request requests ih =>
    obtain ⟨results, it', hserved⟩ := ih (it.send request.1 request.2).1
    exact ⟨_, it', .next .refl hserved⟩

/-- Any events can be sent. -/
lemma exists_dialogue (it₀ : Interpreter S C E K O) (events : List E) :
    ∃ results it, it₀.Dialogue events results it := by
  obtain ⟨sent, it, hserved⟩ := exists_served (it₀.start 0).1 (events.map fun event => (1, event))
  refine ⟨_, it, it₀, 0, _, sent, .refl, hserved, ?_, ?_, rfl⟩
  · rw [List.map_map]
    exact List.map_id events
  · rintro request hrequest
    obtain ⟨event, -, rfl⟩ := List.mem_map.mp hrequest
    exact Nat.one_pos

/-- **A plain machine only answers.**  Every call of a dialogue ends well.  The machine is where the
fold of the step function ends, and what it has published is the first position and then the
position after each event that was accepted. -/
theorem Dialogue.course {events : List E} {results : List (Except InterpreterError Unit)}
    (hplain : d.Plain) (hfresh : Fresh d options it₀)
    (hdialogue : it₀.Dialogue events results it) :
    (∀ result ∈ results, result = .ok ()) ∧ Undisturbed d it ∧ it.status = .running ∧
      it.snapshot = follow d.transition it₀.snapshot events ∧
      it.journal.filterMap emitted? = it₀.snapshot :: trail d.transition it₀.snapshot events := by
  obtain ⟨it₁, budget, requests, sent, hpauses, hserved, rfl, hbudget, rfl⟩ := hdialogue
  have hbegin := Undisturbed.fresh hplain.silent hfresh
  have hblank := hfresh.blank
  have hhushed := hpauses.hushed hbegin.quiet
  have hready := hbegin.hushed hhushed
  have hrests : it₁.definition.rests it₁.snapshot = true := hready.definition ▸ hplain.rests _
  obtain ⟨hstart, hawakened⟩ := start_at_rest hready.quiet (hhushed.status.trans hblank.status)
    hrests hready.waiting budget
  have hsnapshot := hawakened.snapshot.trans hhushed.snapshot
  have hemitted : (it₁.start budget).1.journal.filterMap emitted? = [it₀.snapshot] := by
    have hnothing : it₀.progress = [] := by
      rw [progress, journal, hblank.recorded]
      rfl
    rw [← emitted_progress, hawakened.progress, hhushed.progress, hhushed.snapshot, hnothing]
    rfl
  obtain ⟨hresults, hlast, hrunning, hend, hall⟩ :=
    (hready.awakened hawakened).served hplain hawakened.status hserved hbudget
  rw [hsnapshot] at hend hall
  rw [hemitted] at hall
  refine ⟨List.forall_mem_cons.mpr ⟨?_, hresults⟩, hlast, hrunning, hend, hall⟩
  rw [hstart]
  rfl

end Interpreter

end Macrostep
