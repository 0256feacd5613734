/-
# Machines whose effects send nothing

An effect is silent if neither its start nor its cleanup sends an event and nothing ticks in it.
What silent effects do happens behind the stage (`Interpreter.Backstage`): the effect that is
active, the count of attempts and the warnings change, the journal tells of effects, and that is
all.

An observer is mute if it never sends.  What silent effects and mute observers do is seen neither in
the position, nor in the history or the inbox, nor in what the journal tells of events and
transitions (`Interpreter.Hushed`).

On every course of a machine whose effects are silent the active effect is silent.
-/
import Macrostep.Proofs.ActiveEffect

namespace Macrostep

open Occurrence

/-! ## Silence -/

section

variable {S C E K O : Type}

/-- A running effect that will send nothing. -/
structure Handle.Silent (handle : Handle E O) : Prop where
  ticker : handle.ticker = none
  ending (accepting : Bool) : Output.events (handle.ending accepting).outputs = []

/-- An effect that sends nothing, neither when it is started nor later on. -/
structure Effect.Silent (effect : Effect C E O) : Prop where
  outputs (surroundings : Surroundings) (context : C) :
    Output.events (effect.start surroundings context).outputs = []
  handle {surroundings : Surroundings} {context : C} {handle : Handle E O}
    (hstart : (effect.start surroundings context).result = .ok handle) : handle.Silent

/-- A machine whose effects send nothing. -/
def Definition.Silent [DecidableEq S] (d : Definition S C E K O) : Prop :=
  ∀ state effect, d.effect? state = some effect → effect.Silent

/-- An observer that sends nothing. -/
def Mute (react : Observer S C E O) : Prop := ∀ seen s, Output.events (react seen s) = []

/-- Whether it tells of an event or of a transition: what came, what became of it and where the
machine got to, but not what effects and observers did on the way. -/
def Occurrence.isProgress : Occurrence S C E O → Bool
  | deferred _ | dropped _ | ignored _ | accepted _ | refused _ | taken _ | stale .. | unhandled ..
  | transitioned .. | emitted _ | unsettled .. => true
  | _ => false

end

/-! ## The notes of effects -/

section

variable {S C E K O : Type} {mark : O → Bool}

/-- The notes that a list of outputs leaves, in order. -/
def Output.notes (outputs : List (Output E O)) : List O :=
  outputs.filterMap fun
    | note content => some content
    | _ => none

lemma Output.not_send_mem {outputs : List (Output E O)} (hevents : Output.events outputs = [])
    (event : E) : .send event ∉ outputs := by
  intro hmem
  have hsent : event ∈ Output.events outputs := List.mem_filterMap.mpr ⟨_, hmem, rfl⟩
  rw [hevents] at hsent
  cases hsent

/-- A running effect whose notes are known by a mark. -/
def Handle.Signed (mark : O → Bool) (handle : Handle E O) : Prop :=
  ∀ accepting, ∀ content ∈ Output.notes (handle.ending accepting).outputs, mark content = true

/-- An effect whose notes are known by a mark, those of its start and those of its cleanup. -/
structure Effect.Signed (mark : O → Bool) (effect : Effect C E O) : Prop where
  outputs (surroundings : Surroundings) (context : C) :
    ∀ content ∈ Output.notes (effect.start surroundings context).outputs, mark content = true
  handle {surroundings : Surroundings} {context : C} {handle : Handle E O}
    (hstart : (effect.start surroundings context).result = .ok handle) : handle.Signed mark

/-- A machine whose effects can be told from other user code by a mark on their notes. -/
def Definition.Signed [DecidableEq S] (mark : O → Bool) (d : Definition S C E K O) : Prop :=
  ∀ state effect, d.effect? state = some effect → effect.Signed mark

/-- Every note may be that of an effect. -/
lemma Definition.signed_true [DecidableEq S] (d : Definition S C E K O) :
    d.Signed fun _ => true :=
  fun _ _ _ => ⟨fun _ _ _ _ => rfl, fun _ _ _ _ => rfl⟩

/-- Whether it tells of effects: how they start and end, the outlets that they hand out, and the
notes that bear their mark. -/
def Occurrence.isBackstage (mark : O → Bool) : Occurrence S C E O → Bool
  | launching .. | launched .. | launchFailed _ | cleaned _ | cleanupFailed _
  | cleanupFailedLate .. | lent (.effect _) => true
  | noted content => mark content
  | _ => false

lemma Occurrence.not_isBackstage_of_isProgress {o : Occurrence S C E O}
    (h : o.isProgress = true) : (!o.isBackstage mark) = true := by
  cases o <;> first | rfl | cases h

end

namespace Interpreter

variable {S C E K O : Type} {it it' it'' : Interpreter S C E K O}

/-- What the journal tells of events and transitions. -/
def progress (it : Interpreter S C E K O) : List (Occurrence S C E O) :=
  it.journal.filter isProgress

lemma progress_log (it : Interpreter S C E K O) (o : Occurrence S C E O) :
    (it.log o).progress = it.progress ++ [o].filter isProgress := by
  rw [progress, journal_log, List.filter_append]
  rfl

/-- User code that sends nothing changes the journal alone. -/
lemma performAll_of_silent {outputs : List (Output E O)} (hevents : Output.events outputs = [])
    (it : Interpreter S C E K O) (origin : Origin) :
    it.performAll origin outputs =
      { it with
        recorded :=
          (outputs.map (·.report origin it.inbox.accepting)).reverse ++ it.recorded } := by
  induction outputs generalizing it with
  | nil => rfl
  | cons output outputs ih =>
    rw [List.map_cons, List.reverse_cons, List.append_assoc]
    cases output with
    | send event => cases hevents
    | note content => exact ih hevents (it.log (.noted content))
    | share => exact ih hevents (it.log (.lent origin))

/-- Additions to the journal are not seen where they are left out. -/
lemma filter_journal_of_forall {p : Occurrence S C E O → Bool} {told : List (Occurrence S C E O)}
    (h : ∀ o ∈ told, p o = false) (it : Interpreter S C E K O) :
    ({ it with recorded := told.reverse ++ it.recorded } : Interpreter S C E K O).journal.filter p =
      it.journal.filter p := by
  have hnone : told.filter p = [] := List.filter_eq_nil_iff.mpr fun o ho => by simp [h o ho]
  simp only [journal, List.reverse_append, List.reverse_reverse, List.filter_append, hnone,
    List.append_nil]

/-- What the journal tells of everything but effects, which are known by a mark on their notes. -/
def onstage (mark : O → Bool) (it : Interpreter S C E K O) : List (Occurrence S C E O) :=
  it.journal.filter (!·.isBackstage mark)

lemma onstage_log (mark : O → Bool) (it : Interpreter S C E K O) (o : Occurrence S C E O) :
    (it.log o).onstage mark = it.onstage mark ++ [o].filter (!·.isBackstage mark) := by
  rw [onstage, journal_log, List.filter_append]
  rfl

/-- Events and transitions are not effects. -/
lemma progress_eq_filter_onstage (mark : O → Bool) (it : Interpreter S C E K O) :
    it.progress = (it.onstage mark).filter isProgress := by
  rw [progress, onstage, List.filter_filter]
  refine List.filter_congr fun o _ => ?_
  cases h : o.isProgress with
  | false => rfl
  | true => rw [not_isBackstage_of_isProgress h, Bool.and_self]

variable [DecidableEq S] {mark : O → Bool}

/-! ## Behind the stage -/

/-- The effects send nothing, neither those that may come nor the active one, and their notes are
known by a mark. -/
structure Tame (mark : O → Bool) (it : Interpreter S C E K O) : Prop where
  silent : it.definition.Silent
  signed : it.definition.Signed mark
  active (active : ActiveEffect E O) (hactive : it.effect = some active) :
    active.handle.Silent ∧ active.handle.Signed mark

/-- Anything but the machine and the active effect does not matter to it. -/
lemma Tame.elsewhere (h : it.Tame mark) (hdefinition : it'.definition = it.definition)
    (heffect : it'.effect = it.effect) : it'.Tame mark where
  silent := hdefinition ▸ h.silent
  signed := hdefinition ▸ h.signed
  active active hactive := h.active active (heffect ▸ hactive)

/-- Nothing ticks in a tame effect. -/
lemma Tame.advanceTo_eq (h : it.Tame mark) (time : Nat) (most : Option Nat) :
    it.advanceTo time most = { it with now := time } := by
  unfold Interpreter.advanceTo
  cases hactive : it.effect with
  | none => rfl
  | some active => simp only [(h.active active hactive).1.ticker]

/-- `it'` has come from `it`, whose effects are tame, and nothing has happened but to effects. -/
structure Backstage (mark : O → Bool) (it it' : Interpreter S C E K O) : Prop where
  definition : it'.definition = it.definition
  options : it'.options = it.options
  status : it'.status = it.status
  snapshot : it'.snapshot = it.snapshot
  history : it'.history = it.history
  nextSubscription : it'.nextSubscription = it.nextSubscription
  subscribers : it'.subscribers = it.subscribers
  watched : it'.watched = it.watched
  inbox : it'.inbox = it.inbox
  onstage : it'.onstage mark = it.onstage mark
  tame : it'.Tame mark

namespace Backstage

lemma refl (h : it.Tame mark) : it.Backstage mark it :=
  ⟨rfl, rfl, rfl, rfl, rfl, rfl, rfl, rfl, rfl, rfl, h⟩

lemma trans (h : it.Backstage mark it') (h' : it'.Backstage mark it'') :
    it.Backstage mark it'' where
  definition := h'.definition.trans h.definition
  options := h'.options.trans h.options
  status := h'.status.trans h.status
  snapshot := h'.snapshot.trans h.snapshot
  history := h'.history.trans h.history
  nextSubscription := h'.nextSubscription.trans h.nextSubscription
  subscribers := h'.subscribers.trans h.subscribers
  watched := h'.watched.trans h.watched
  inbox := h'.inbox.trans h.inbox
  onstage := h'.onstage.trans h.onstage
  tame := h'.tame

/-- What is counted and warned of, and the time, is seen by effects alone. -/
lemma uncounted (h : it.Tame mark) {generation now : Nat} {warnings : List EffectError} :
    it.Backstage mark { it with generation, now, warnings } :=
  ⟨rfl, rfl, rfl, rfl, rfl, rfl, rfl, rfl, rfl, rfl, h.elsewhere rfl rfl⟩

/-- The place of the active effect is left or taken by a tame one. -/
lemma occupied (h : it.Tame mark) {effect : Option (ActiveEffect E O)}
    (htame : ∀ active, effect = some active →
      active.handle.Silent ∧ active.handle.Signed mark) :
    it.Backstage mark { it with effect } :=
  ⟨rfl, rfl, rfl, rfl, rfl, rfl, rfl, rfl, rfl, rfl, ⟨h.silent, h.signed, htame⟩⟩

/-- What is told of effects is written down. -/
lemma told (h : it.Tame mark) (told : List (Occurrence S C E O))
    (htold : ∀ o ∈ told, o.isBackstage mark = true) :
    it.Backstage mark { it with recorded := told.reverse ++ it.recorded } where
  definition := rfl
  options := rfl
  status := rfl
  snapshot := rfl
  history := rfl
  nextSubscription := rfl
  subscribers := rfl
  watched := rfl
  inbox := rfl
  onstage := filter_journal_of_forall (fun o ho => by simp [htold o ho]) it
  tame := h.elsewhere rfl rfl

lemma log (h : it.Tame mark) {o : Occurrence S C E O} (ho : o.isBackstage mark = true) :
    it.Backstage mark (it.log o) :=
  told h [o] (List.forall_mem_singleton.mpr ho)

/-- An effect that sends nothing leaves notes, which bear its mark, and hands out its outlet. -/
lemma performAll (h : it.Tame mark) (generation : Nat) {outputs : List (Output E O)}
    (hevents : Output.events outputs = [])
    (hnotes : ∀ content ∈ Output.notes outputs, mark content = true) :
    it.Backstage mark (it.performAll (.effect generation) outputs) := by
  rw [performAll_of_silent hevents]
  refine told h _ fun o ho => ?_
  obtain ⟨output, houtput, rfl⟩ := List.mem_map.mp ho
  cases output with
  | send event => exact absurd houtput (Output.not_send_mem hevents event)
  | note content => exact hnotes content (List.mem_filterMap.mpr ⟨_, houtput, rfl⟩)
  | share => rfl

lemma attempted (h : it.Tame mark) (generation : Nat) {result : Except EffectError (Handle E O)}
    (hresult : ∀ handle, result = .ok handle → handle.Silent ∧ handle.Signed mark) :
    it.Backstage mark (attempted generation result it) := by
  cases result with
  | ok handle =>
    let active : ActiveEffect E O :=
      ⟨generation, handle, it.now + (handle.ticker.map Ticker.period).getD 0⟩
    have hbegun : it.Backstage mark { it with effect := some active } := by
      refine occupied h fun active hactive => ?_
      obtain rfl := Option.some.inj hactive
      exact hresult handle rfl
    exact hbegun.trans (log hbegun.tame rfl)
  | error error =>
    have hwarned : it.Backstage mark { it with warnings := it.warnings ++ [error] } := uncounted h
    exact hwarned.trans (log hwarned.tame rfl)

/-- The effect of the current state is started, or fails to. -/
theorem launch (h : it.Tame mark) : it.Backstage mark it.launch := by
  cases heffect : it.definition.effect? it.state with
  | none =>
    rw [launch_of_none heffect]
    exact refl h
  | some effect =>
    have hsilent := h.silent _ _ heffect
    have hsigned := h.signed _ _ heffect
    -- the attempt is counted and told, the effect does its part, and the attempt ends
    have hcounted : it.Backstage mark { it with generation := it.generation + 1 } := uncounted h
    have hattempting : it.Backstage mark it.attempting := hcounted.trans (log hcounted.tame rfl)
    have hevents : Output.events (startup effect it).outputs = [] := hsilent.outputs _ _
    have hperform := hattempting.trans
      (performAll hattempting.tame (it.generation + 1) hevents (hsigned.outputs _ _))
    rw [launch_of_some heffect]
    exact hperform.trans (attempted hperform.tame _ fun handle hstart =>
      ⟨hsilent.handle hstart, hsigned.handle hstart⟩)

/-- The active effect is cleaned up. -/
lemma release (h : it.Tame mark) : it.Backstage mark it.release.1 := by
  cases hactive : it.effect with
  | none =>
    rw [release_of_none hactive]
    exact refl h
  | some active =>
    obtain ⟨hsilent, hsigned⟩ := h.active active hactive
    have hreleased : it.Backstage mark { it with effect := none } := occupied h nofun
    have hcleaned := hreleased.trans
      (log hreleased.tame (o := .cleaned active.generation) rfl)
    rw [release_of_some hactive]
    exact hcleaned.trans
      (performAll hcleaned.tame _ (hsilent.ending it.inbox.accepting) (hsigned _))

/-- The active effect is stopped on the way out of a state. -/
theorem leave (h : it.Tame mark) : it.Backstage mark it.leave := by
  have hrelease := release h
  unfold Interpreter.leave
  split
  · rename_i heq
    rwa [heq] at hrelease
  · rename_i here error heq
    rw [heq] at hrelease
    have hwarned : here.Backstage mark { here with warnings := here.warnings ++ [error] } :=
      uncounted hrelease.tame
    exact hrelease.trans (hwarned.trans (log hwarned.tame rfl))

lemma advanceTo (h : it.Tame mark) (time : Nat) (most : Option Nat) :
    it.Backstage mark (it.advanceTo time most) := by
  rw [h.advanceTo_eq]
  exact uncounted h

end Backstage

/-! ## In silence -/

/-- Nobody but callers and actions sends: the effects are silent and the observers are mute. -/
structure Quiet (it : Interpreter S C E K O) : Prop where
  effects : it.definition.Silent
  active (active : ActiveEffect E O) (hactive : it.effect = some active) : active.handle.Silent
  observers : ∀ o ∈ it.subscribers, Mute o.react

/-- Where the machine is, what it has recorded and what waits do not matter to it. -/
lemma Quiet.elsewhere (h : it.Quiet) {status : Status} {snapshot : Snapshot S C}
    {history : History S} {watched : Watched S C} {inbox : Inbox E}
    {recorded : List (Occurrence S C E O)} :
    Quiet { it with status, snapshot, history, watched, inbox, recorded } :=
  ⟨h.effects, h.active, h.observers⟩

lemma Quiet.tame (h : it.Quiet) : it.Tame fun _ => true where
  silent := h.effects
  signed := it.definition.signed_true
  active active hactive := ⟨h.active active hactive, fun _ _ _ => rfl⟩

/-- `it'` has come from `it`, which stays quiet, and nothing has happened that matters to events and
transitions. -/
structure Hushed (it it' : Interpreter S C E K O) : Prop where
  definition : it'.definition = it.definition
  options : it'.options = it.options
  status : it'.status = it.status
  snapshot : it'.snapshot = it.snapshot
  history : it'.history = it.history
  inbox : it'.inbox = it.inbox
  progress : it'.progress = it.progress
  quiet : it'.Quiet

namespace Hushed

lemma refl (h : it.Quiet) : it.Hushed it :=
  ⟨rfl, rfl, rfl, rfl, rfl, rfl, rfl, h⟩

lemma trans (h : it.Hushed it') (h' : it'.Hushed it'') : it.Hushed it'' where
  definition := h'.definition.trans h.definition
  options := h'.options.trans h.options
  status := h'.status.trans h.status
  snapshot := h'.snapshot.trans h.snapshot
  history := h'.history.trans h.history
  inbox := h'.inbox.trans h.inbox
  progress := h'.progress.trans h.progress
  quiet := h'.quiet

/-- Nobody sends because of what is counted, warned of or watched, or because of the time. -/
lemma uncounted (h : it.Quiet) {generation nextSubscription now : Nat} {watched : Watched S C}
    {warnings : List EffectError} :
    it.Hushed { it with generation, nextSubscription, now, watched, warnings } :=
  ⟨rfl, rfl, rfl, rfl, rfl, rfl, rfl, ⟨h.effects, h.active, h.observers⟩⟩

/-- The observers become others, which are mute as well. -/
lemma regrouped (h : it.Quiet) {subscribers : List (Subscriber S C E O)}
    (hmute : ∀ o ∈ subscribers, Mute o.react) : it.Hushed { it with subscribers } :=
  ⟨rfl, rfl, rfl, rfl, rfl, rfl, rfl, ⟨h.effects, h.active, hmute⟩⟩

/-- What is no progress is written down. -/
lemma told (h : it.Quiet) (told : List (Occurrence S C E O))
    (htold : ∀ o ∈ told, o.isProgress = false) :
    it.Hushed { it with recorded := told.reverse ++ it.recorded } where
  definition := rfl
  options := rfl
  status := rfl
  snapshot := rfl
  history := rfl
  inbox := rfl
  progress := filter_journal_of_forall htold it
  quiet := h.elsewhere

lemma log (h : it.Quiet) {o : Occurrence S C E O} (ho : o.isProgress = false) :
    it.Hushed (it.log o) :=
  told h [o] (List.forall_mem_singleton.mpr ho)

/-- User code that sends nothing leaves notes at most. -/
lemma performAll (h : it.Quiet) (origin : Origin) {outputs : List (Output E O)}
    (hevents : Output.events outputs = []) : it.Hushed (it.performAll origin outputs) := by
  rw [performAll_of_silent hevents]
  refine told h _ fun o ho => ?_
  obtain ⟨output, houtput, rfl⟩ := List.mem_map.mp ho
  cases output with
  | send event => exact absurd houtput (Output.not_send_mem hevents event)
  | note content => rfl
  | share => rfl

/-! ### Effects -/

/-- What happens behind the stage passes in silence. -/
lemma of_backstage (h : it.Quiet) (hbackstage : it.Backstage mark it') : it.Hushed it' where
  definition := hbackstage.definition
  options := hbackstage.options
  status := hbackstage.status
  snapshot := hbackstage.snapshot
  history := hbackstage.history
  inbox := hbackstage.inbox
  progress := by
    rw [progress_eq_filter_onstage mark, progress_eq_filter_onstage mark, hbackstage.onstage]
  quiet :=
    { effects := hbackstage.tame.silent
      active := fun active hactive => (hbackstage.tame.active active hactive).1
      observers := hbackstage.subscribers ▸ h.observers }

/-- A silent effect is started. -/
lemma launch (h : it.Quiet) : it.Hushed it.launch := of_backstage h (.launch h.tame)

/-- A silent effect is stopped on the way out of a state. -/
lemma leave (h : it.Quiet) : it.Hushed it.leave := of_backstage h (.leave h.tame)

/-- Nothing ticks in a silent effect. -/
lemma advanceTo (h : it.Quiet) (time : Nat) (most : Option Nat) :
    it.Hushed (it.advanceTo time most) :=
  of_backstage h (.advanceTo h.tame time most)

/-! ### Observers -/

lemma showTo (h : it.Quiet) {subscriber : Subscriber S C E O} (hmute : Mute subscriber.react) :
    it.Hushed (it.showTo subscriber) := by
  have hobserved : it.Hushed (it.log (.observed subscriber.id it.snapshot)) := log h rfl
  exact hobserved.trans (performAll hobserved.quiet .external (hmute _ _))

/-- Mute observers are shown the snapshot. -/
lemma notify (h : it.Quiet) : it.Hushed it.notify := by
  have hshown : ∀ (subscribers : List (Subscriber S C E O)) (here : Interpreter S C E K O),
      here.Quiet → (∀ o ∈ subscribers, Mute o.react) →
      here.Hushed (subscribers.foldl Interpreter.showTo here) := by
    intro subscribers
    induction subscribers with
    | nil => exact fun here hquiet _ => refl hquiet
    | cons subscriber subscribers ih =>
      intro here hquiet hmute
      rw [List.forall_mem_cons] at hmute
      have hfirst := showTo hquiet hmute.1
      exact hfirst.trans (ih _ hfirst.quiet hmute.2)
  have hall := hshown it.subscribers it h h.observers
  refine hall.trans (regrouped hall.quiet fun o ho => ?_)
  obtain ⟨before, hbefore, rfl⟩ := List.mem_map.mp ho
  exact h.observers before hbefore

/-- A mute observer comes. -/
lemma subscribe (h : it.Quiet) {react : Observer S C E O} (hmute : Mute react) :
    it.Hushed (it.subscribe react).1 := by
  have hjoin {here : Interpreter S C E K O} (hquiet : here.Quiet) (id : Nat)
      (seen : List (Snapshot S C)) :
      here.Hushed { here with subscribers := here.subscribers ++ [⟨id, react, seen⟩] } := by
    refine regrouped hquiet fun o ho => ?_
    rcases List.mem_append.mp ho with ho | ho
    · exact hquiet.observers o ho
    · rw [List.mem_singleton.mp ho]
      exact hmute
  let counted : Interpreter S C E K O := { it with nextSubscription := it.nextSubscription + 1 }
  have hcounted : it.Hushed counted := uncounted h
  unfold Interpreter.subscribe
  dsimp only
  split
  · exact hcounted
  · exact hcounted.trans (hjoin hcounted.quiet _ _)
  · let newcomer : Subscriber S C E O := ⟨it.nextSubscription, react, []⟩
    have hshown : counted.Hushed (counted.showTo newcomer) := showTo hcounted.quiet hmute
    exact (hcounted.trans hshown).trans (hjoin hshown.quiet _ _)

lemma unsubscribe (h : it.Quiet) (id : Nat) : it.Hushed (it.unsubscribe id).1 :=
  regrouped h fun o ho => h.observers o (List.mem_filter.mp ho).1

end Hushed

/-! ## Over a course -/

section

variable [Label S] [DecidableEq K] [Kinded E K] {d : Definition S C E K O} {options : Options}
  {it₀ : Interpreter S C E K O}

/-- The active effect of a machine whose effects are silent is silent. -/
theorem Course.silent (hsilent : d.Silent) (hfresh : Fresh d options it₀)
    (hcourse : it₀.Course it) {active : ActiveEffect E O} (hactive : it.effect = some active) :
    active.handle.Silent := by
  obtain ⟨⟨hdefinition, -, -⟩, -⟩ := Course.sound hfresh hcourse
  obtain ⟨tenancy, -, hstanding⟩ := Course.household hfresh hcourse
  have hidle (hnone : it.running? = none) : active.handle.Silent := by
    rw [(running?_eq_none_iff it).mp hnone] at hactive
    cases hactive
  cases hstanding with
  | vacant hstatus hnone => exact hidle hnone
  | idle hstatus hno hnone => exact hidle hnone
  | failed hstatus hsome hnone => exact hidle hnone
  | @active effect surroundings context handle hstatus hsome hattempt hstart hrunning =>
    -- it is what the start of the effect of its state has given
    rw [running?, hactive] at hrunning
    obtain ⟨-, rfl⟩ := Prod.mk.inj (Option.some.inj hrunning)
    rw [hdefinition] at hsome
    exact (hsilent _ _ hsome).handle hstart
  | ended hstatus hnone => exact hidle hnone

/-- If its observers are mute as well, it is quiet. -/
lemma Course.quiet (hsilent : d.Silent) (hfresh : Fresh d options it₀) (hcourse : it₀.Course it)
    (hmute : ∀ o ∈ it.subscribers, Mute o.react) : it.Quiet where
  effects := (Course.sound hfresh hcourse).1.definition ▸ hsilent
  active _ := Course.silent hsilent hfresh hcourse
  observers := hmute

/-- A machine listens until it is stopped. -/
theorem Course.listening (hfresh : Fresh d options it₀) (hcourse : it₀.Course it) :
    it.status = .stopped ∨ it.inbox.reception = .listening := by
  induction hcourse with
  | refl =>
    rw [hfresh.blank.inbox]
    exact .inr rfl
  | @tail here there hcourse hmove ih =>
    rcases hmove.beside_or with
      ⟨told, hbeside⟩ | ⟨hstatus, hamid⟩ | ⟨hstatus, envelope, inbox, hpop, hamid⟩ | rfl
    · rw [hbeside.status, hbeside.reception]
      exact ih
    · obtain ⟨told, hadds⟩ := adds_of_booted_meanwhile hamid
      rw [hstatus] at ih
      exact .inr (hadds.reception.trans (ih.resolve_left nofun))
    · obtain ⟨told, -, hadds⟩ := resolve_adds (here.receiving envelope inbox) envelope
      obtain ⟨first, rest, sent, rest', -, -, -, hadds'⟩ := hamid.adds hadds
      rw [hstatus] at ih
      refine .inr ((hadds'.reception.trans ?_).trans (ih.resolve_left nofun))
      exact (Inbox.waiting_of_pop? hpop).2
    · by_cases hstopped : here.status = .stopped
      · rwa [stop_of_stopped hstopped]
      · obtain ⟨told, hhalt⟩ := stop_spec hstopped
        exact .inl hhalt.status

end

end Interpreter

end Macrostep
