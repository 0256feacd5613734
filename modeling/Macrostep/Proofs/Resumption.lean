/-
# Going on from a checkpoint

The checkpoint of a running machine is carried somewhere, as it is, as a JSON text or as a binary
record, and another interpreter goes on from it.  If the effects of the machine are silent, nobody
who sends events notices (`Interpreter.resume_transparent`): the start takes no transition, since
the position of the checkpoint is one of rest, and from then on both interpreters mirror each
other.
-/
import Macrostep.Proofs.CheckpointRoundTrip
import Macrostep.Proofs.CutChains
import Macrostep.Proofs.DeclaredStates
import Macrostep.Proofs.MirroredRuns

namespace Macrostep

open Binary Occurrence Stored

/-! ## The way of a checkpoint -/

section

variable {S C : Type}

/-- What arrives of a checkpoint that is carried somewhere.  The states and the context have to be
such that their formats give them back. -/
inductive Checkpoint.Carried (cp : Checkpoint S C) :
    Except CheckpointError (Checkpoint S C) → Prop
  /-- It is handed over. -/
  | asIs : Carried cp (.ok cp)
  /-- It is written as a JSON text and read again. -/
  | text [Stored S] [Stored C] [Lossless S] [Spelled C]
      (hcontext : ofJson? (toJson cp.context) = some cp.context) : Carried cp (ofText cp.toText)
  /-- It is written as a binary record and read again. -/
  | octets [Stored S] [Stored C] [Lossless S] (hcontext : Reads read (write cp.context) cp.context)
      (hsize : cp.toOctets.length < UInt64.size) : Carried cp (ofOctets cp.toOctets)

/-- Nothing is lost on the way. -/
lemma Checkpoint.Carried.eq_ok {cp : Checkpoint S C}
    {arrived : Except CheckpointError (Checkpoint S C)} (h : cp.Carried arrived)
    (hversion : cp.version = checkpointVersion) : arrived = .ok cp := by
  cases h with
  | asIs => rfl
  | text hcontext => exact (ofText_eq_ok_iff hversion).mpr hcontext
  | octets hcontext hsize => exact (ofOctets_of_reads cp hsize hcontext).trans (if_pos hversion)

end

namespace Interpreter

variable {S C E K O : Type} {it it' it₀ : Interpreter S C E K O}
  {past past' : List (Occurrence S C E O)} [DecidableEq S]

/-! ## What happens between two events -/

/-- Something that happens to an interpreter without an event: time passes, an observer that sends
nothing comes, an observer goes, or the warnings are taken. -/
inductive Pause (it : Interpreter S C E K O) : Interpreter S C E K O → Prop
  | advance (time : Nat) (most : Option Nat) : Pause it (it.advanceTo time most)
  | subscribe {react : Observer S C E O} (hmute : Mute react) : Pause it (it.subscribe react).1
  | unsubscribe (id : Nat) : Pause it (it.unsubscribe id).1
  | takeWarnings : Pause it it.takeWarnings.1

/-- Any number of such things. -/
abbrev Pauses : Interpreter S C E K O → Interpreter S C E K O → Prop := Relation.ReflTransGen Pause

lemma Pauses.hushed (h : it.Quiet) (hpauses : it.Pauses it') : it.Hushed it' := by
  induction hpauses with
  | refl => exact .refl h
  | tail hpauses hpause ih =>
    cases hpause with
    | advance time most => exact ih.trans (.advanceTo ih.quiet time most)
    | subscribe hmute => exact ih.trans (.subscribe ih.quiet hmute)
    | unsubscribe id => exact ih.trans (.unsubscribe ih.quiet id)
    | takeWarnings => exact ih.trans (.uncounted ih.quiet)

variable [Label S] [DecidableEq K] [Kinded E K]

/-- Events are sent one after the other, with pauses, and each call returns a result.  A call may
resolve so many events. -/
inductive Served : Interpreter S C E K O → List (Nat × E) →
    List (Except InterpreterError Unit) → Interpreter S C E K O → Prop
  | done {it it' : Interpreter S C E K O} (hpauses : it.Pauses it') : Served it [] [] it'
  | next {it it₁ it' : Interpreter S C E K O} {budget : Nat} {event : E} {rest : List (Nat × E)}
      {results : List (Except InterpreterError Unit)} (hpauses : it.Pauses it₁)
      (hrest : Served (it₁.send budget event).1 rest results it') :
      Served it ((budget, event) :: rest) ((it₁.send budget event).2 :: results) it'

/-- Interpreters that mirror each other do so after the same events, and return the same results,
whatever happens in the pauses. -/
theorem Mirrors.served {last last' : Interpreter S C E K O} {requests : List (Nat × E)}
    {results results' : List (Except InterpreterError Unit)} (h : Mirrors past past' it it')
    (hserved : it.Served requests results last) (hserved' : it'.Served requests results' last') :
    results' = results ∧ Mirrors past past' last last' := by
  induction hserved generalizing it' results' with
  | done hpauses =>
    cases hserved' with
    | done hpauses' => exact ⟨rfl, h.hushed (hpauses.hushed h.quiet) (hpauses'.hushed h.quiet')⟩
  | @next it it₁ last budget event rest results hpauses hrest ih =>
    cases hserved' with
    | next hpauses' hrest' =>
      have hready := h.hushed (hpauses.hushed h.quiet) (hpauses'.hushed h.quiet')
      obtain ⟨hresult, hsent⟩ := Mirrors.lockstep.send hready budget event
      obtain ⟨hresults, hlast⟩ := ih hsent hrest'
      rw [hresult, hresults]
      exact ⟨rfl, hlast⟩

/-! ## The start at a position of rest -/

/-- `it'` has been started where it rests: the position is published and nothing else happens that
matters to events and transitions. -/
structure Awakened (it it' : Interpreter S C E K O) : Prop where
  definition : it'.definition = it.definition
  options : it'.options = it.options
  status : it'.status = .running
  snapshot : it'.snapshot = it.snapshot
  history : it'.history = it.history
  inbox : it'.inbox = it.inbox
  progress : it'.progress = it.progress ++ [.emitted it.snapshot]
  quiet : it'.Quiet

omit [Label S] [DecidableEq K] [Kinded E K] in
/-- Where a machine rests it takes no eventless step. -/
lemma chain_of_rests {d : Definition S C E K O} {s : Snapshot S C} (h : d.rests s = true)
    (limit : Nat) : d.chain limit s = [] := by
  cases limit with
  | zero => rfl
  | succ limit => rw [Definition.chain, Option.isNone_iff_eq_none.mp h]

omit [DecidableEq K] in
lemma settleWithin_of_rests (h : it.definition.rests it.snapshot = true) (steps : Nat) :
    it.settleWithin steps = (it, .ok ()) :=
  settleWithin_of_none (Option.isNone_iff_eq_none.mp h) steps

lemma start_at_rest (h : it.Quiet) (hstatus : it.status = .notStarted)
    (hrests : it.definition.rests it.snapshot = true) (hempty : it.inbox.waiting = [])
    (budget : Nat) :
    (it.start budget).2 = .ok it.snapshot ∧ it.Awakened (it.start budget).1 := by
  let begun : Interpreter S C E K O := { it with status := .running }.log (.started it.state)
  have hlaunch : begun.Hushed begun.launch := .launch h.elsewhere
  have hbooting : it.booting = (begun.launch, .ok ()) := by
    refine settleWithin_of_rests ?_ _
    rw [hlaunch.definition, hlaunch.snapshot]
    exact hrests
  -- what is published is the position, and nobody sends in answer to it
  have hemit : begun.launch.aired.Hushed begun.launch.emit := .notify hlaunch.quiet.elsewhere
  have hprogress : begun.launch.aired.progress = it.progress ++ [.emitted it.snapshot] := by
    have hbegunProgress : begun.progress = it.progress := by
      refine (progress_log _ _).trans ?_
      exact List.append_nil _
    have hsnapshot : begun.launch.snapshot = it.snapshot := hlaunch.snapshot
    rw [aired, progress_log, hsnapshot]
    exact congrArg (· ++ _) (hlaunch.progress.trans hbegunProgress)
  have hbooted : it.booted = begun.launch.emit := by rw [booted, hbooting]
  have hinbox : it.booted.inbox = it.inbox := by
    rw [hbooted, hemit.inbox]
    exact hlaunch.inbox
  have hsnapshot : it.booted.snapshot = it.snapshot := by
    rw [hbooted, hemit.snapshot]
    exact hlaunch.snapshot
  have hdrain : it.booted.drain budget = (it.booted, .ok ()) :=
    drain_of_done (.inr (by rw [hinbox, hempty])) budget
  rw [start_of_ok hstatus (by rw [hbooting]), hdrain]
  refine ⟨congrArg Except.ok hsnapshot, ?_⟩
  rw [hbooted]
  exact
    { definition := hemit.definition.trans hlaunch.definition
      options := hemit.options.trans hlaunch.options
      status := hemit.status.trans hlaunch.status
      snapshot := hemit.snapshot.trans hlaunch.snapshot
      history := hemit.history.trans hlaunch.history
      inbox := hemit.inbox.trans hlaunch.inbox
      progress := hemit.progress.trans hprogress
      quiet := hemit.quiet }

/-! ## Heirs -/

/-- `heir` stands where `it` stands, with the same history, and was not started. -/
structure Heir (it heir : Interpreter S C E K O) : Prop where
  definition : heir.definition = it.definition
  options : heir.options = it.options
  status : heir.status = .notStarted
  snapshot : heir.snapshot = it.snapshot
  history : heir.history = it.history
  inbox : heir.inbox = {}
  progress : heir.progress = []
  quiet : heir.Quiet

namespace Heir

variable {heir heir' : Interpreter S C E K O}

omit [Label S] [DecidableEq K] [Kinded E K] in
/-- Whoever is placed where `it` stands is an heir, whatever happens before the start. -/
lemma of_placed (hsilent : it.definition.Silent) {now : Nat} {timers : Bool}
    (hpauses : Pauses { placed it.definition it.options it.snapshot it.history with now, timers }
      heir) : it.Heir heir := by
  have hplaced : ({ placed it.definition it.options it.snapshot it.history with now, timers } :
      Interpreter S C E K O).Quiet := ⟨hsilent, nofun, nofun⟩
  have hhushed := hpauses.hushed hplaced
  exact ⟨hhushed.definition, hhushed.options, hhushed.status, hhushed.snapshot, hhushed.history,
    hhushed.inbox, hhushed.progress, hhushed.quiet⟩

omit [Label S] [DecidableEq K] [Kinded E K] in
/-- An heir would put the same away. -/
lemma checkpoint (h : it.Heir heir) (id : String) :
    heir.checkpoint id = { it.checkpoint id with timestamp := .ofNanos heir.now } := by
  rw [Interpreter.checkpoint, Interpreter.checkpoint, h.definition, h.snapshot, h.history]

/-- If `it` rests, the start of an heir takes no transition and publishes the position. -/
lemma start (h : it.Heir heir) (hrests : it.definition.rests it.snapshot = true) (budget : Nat) :
    heir.answer none = [] ∧ (heir.start budget).2 = .ok it.snapshot ∧
      heir.Awakened (heir.start budget).1 := by
  rw [← h.definition, ← h.snapshot] at hrests
  have hempty : heir.inbox.waiting = [] := congrArg Inbox.waiting h.inbox
  rw [← h.snapshot]
  exact ⟨chain_of_rests hrests _, start_at_rest h.quiet h.status hrests hempty budget⟩

omit [Label S] [DecidableEq K] [Kinded E K] in
lemma progress_of_awakened (h : it.Heir heir) (hawakened : heir.Awakened heir') :
    heir'.progress = [.emitted it.snapshot] := by
  rw [hawakened.progress, h.progress, h.snapshot]
  rfl

omit [Label S] [DecidableEq K] [Kinded E K] in
/-- From then on it mirrors `it`. -/
lemma mirrors (h : it.Heir heir) (hawakened : heir.Awakened heir') (hquiet : it.Quiet)
    (hrunning : it.status = .running) (haccepting : it.inbox.accepting = true)
    (hempty : it.inbox.waiting = []) : Mirrors it.progress [.emitted it.snapshot] it heir' where
  definition := hawakened.definition.trans h.definition
  options := hawakened.options.trans h.options
  status := hawakened.status.trans hrunning.symm
  snapshot := hawakened.snapshot.trans h.snapshot
  history := by rw [hawakened.history, h.history]
  waiting := by
    rw [hawakened.inbox, h.inbox, hempty]
    rfl
  told := ⟨[], (List.append_nil _).symm, h.progress_of_awakened hawakened⟩
  quiet := hquiet
  quiet' := hawakened.quiet
  accepting := haccepting
  accepting' := by
    rw [hawakened.inbox, h.inbox]
    rfl
  external := by simp [hempty]

end Heir

/-! ## Nobody notices -/

omit [Label S] in
/-- Interpreters that agree owe the same steps to every event. -/
lemma Agree.answer (h : Agree past past' it it') (input : Option E) :
    it'.answer input = it.answer input := by
  rw [Interpreter.answer, Interpreter.answer, h.definition, h.options, h.snapshot]

variable {d : Definition S C E K O} {options : Options}

/-- An interpreter that goes on from a checkpoint is not to be told from the one that was put away,
if effects and observers send nothing.  Before its start it would put the same away; its start takes
no transition and publishes the position once; and after the same events both have returned the same
results, taken the same transitions, published the same snapshots and kept the same history apart
from the times, whatever time it is for either of them and whoever observes them. -/
theorem resume_transparent {draft : Draft S C E K O} (hbuild : draft.build = .ok d)
    (hsilent : d.Silent) (hfresh : Fresh d options it₀) (hcourse : it₀.Course it)
    (hrunning : it.status = .running) (hempty : it.inbox.waiting = []) (hsmooth : it.Smooth)
    (hmute : ∀ o ∈ it.subscribers, Mute o.react) {id : String}
    {arrived : Except CheckpointError (Checkpoint S C)}
    (hcarried : (it.checkpoint id).Carried arrived) :
    ∃ heir, arrived.bind (fun cp => resume d cp options) = .ok heir ∧
      ∀ now timers (heir₀ : Interpreter S C E K O), Pauses { heir with now, timers } heir₀ →
        (∀ id', heir₀.checkpoint id' =
          { it.checkpoint id' with timestamp := .ofNanos heir₀.now }) ∧
        ∀ budget, heir₀.answer none = [] ∧ (heir₀.start budget).2 = .ok it.snapshot ∧
          (heir₀.start budget).1.snapshot = it.snapshot ∧
          (heir₀.start budget).1.history = it.history ∧
          (heir₀.start budget).1.progress = [.emitted it.snapshot] ∧
          ∀ requests results results' last last', it.Served requests results last →
            (heir₀.start budget).1.Served requests results' last' →
            results' = results ∧ Agree it.progress [.emitted it.snapshot] last last' ∧
              ∀ input, last'.answer input = last.answer input := by
  obtain ⟨⟨hdefinition, hoptions, -⟩, -⟩ := Course.sound hfresh hcourse
  have hresume := hcourse.resume_checkpoint (Draft.closed_of_build hbuild) hfresh id options
  have hrests := Course.rests hfresh hcourse hrunning hsmooth
  have hquiet := Course.quiet hsilent hfresh hcourse hmute
  have hlistening : it.inbox.reception = .listening := by
    refine (Course.listening hfresh hcourse).resolve_left ?_
    rw [hrunning]
    nofun
  subst hdefinition hoptions
  rw [hcarried.eq_ok rfl]
  refine ⟨_, hresume, fun now timers heir₀ hpauses => ?_⟩
  have hheir : it.Heir heir₀ := .of_placed hsilent hpauses
  refine ⟨hheir.checkpoint, fun budget => ?_⟩
  obtain ⟨hanswer, hresult, hawakened⟩ := hheir.start hrests budget
  have hmirrors :=
    hheir.mirrors hawakened hquiet hrunning (decide_eq_true hlistening) hempty
  refine ⟨hanswer, hresult, hmirrors.snapshot, hawakened.history.trans hheir.history,
    hheir.progress_of_awakened hawakened, ?_⟩
  intro requests results results' last last' hserved hserved'
  obtain ⟨hresults, hlast⟩ := hmirrors.served hserved hserved'
  exact ⟨hresults, hlast.toAgree, hlast.toAgree.answer⟩

end Interpreter

namespace Lamp

open Interpreter

instance : Stored State := .ofNames [.off, .warm, .on] Label.name

instance : Lossless State :=
  .of_names (by rintro ⟨⟩ <;> decide) (by rintro ⟨⟩ ⟨⟩ <;> decide) (by decide)

/-- An effect that takes notes and sends nothing. -/
def ember : Effect Int64 Event Unit where
  id := "ember"
  launch _ _ := { outputs := [.note ()], result := .ok (.releasing [.note ()]) }

/-- The transition to a state, which counts. -/
def counting (target : Option State) (more : List (Reference (Action Int64 Event Unit)) := []) :
    TransitionDraft State Int64 Event Unit where
  target
  actions := .inline (.assign fun count _ => count + 1) :: more

/-- A lamp that counts in a number that can be put away.  The press queues the beat itself. -/
def dimmer : Draft State Int64 Event Event Unit where
  id := "dimmer"
  initial := .off
  context := 0
  states :=
    [{ state := .off, isFinal := false
       on := [(.press, counting (some .warm) [.inline (.raise fun _ _ => .beat)])] },
      { state := .warm, isFinal := false, always := [counting (some .on)] },
      { state := .on, isFinal := false, effect := ember
        on := [(.press, counting (some .off)), (.beat, counting none)] }]

/-- The lamp that has just been started. -/
def dark : Interpreter State Int64 Event Event Unit :=
  ((Interpreter.new dimmer.compile).start 1).1

/-- The lamp that was pressed once. -/
def dimmed : Interpreter State Int64 Event Event Unit := (dark.send 9 .press).1

lemma dark_course : (Interpreter.new dimmer.compile).Course dark := Interpreter.Course.start _ 1

lemma dimmed_course : (Interpreter.new dimmer.compile).Course dimmed :=
  dark_course.trans (Interpreter.Course.send dark 9 .press)

lemma ember_silent : ember.Silent where
  outputs _ _ := rfl
  handle hstart := by
    obtain rfl := Except.ok.inj hstart
    exact ⟨rfl, fun _ => rfl⟩

lemma dimmer_silent : dimmer.compile.Silent := by
  intro state effect heffect
  cases state with
  | off => cases heffect
  | warm => cases heffect
  | on =>
    obtain rfl := Option.some.inj heffect
    exact ember_silent

/-- Whoever goes on from what arrives is lit, and the next press turns it off. -/
def GoesOn (arrived : Except CheckpointError (Checkpoint State Int64)) : Prop :=
  ∃ heir, arrived.bind (fun cp => resume dimmer.compile cp {}) = .ok heir ∧
    (heir.start 1).2 = .ok ⟨.on, 3, false⟩ ∧
    ((heir.start 1).1.send 9 .press).2 = .ok () ∧
    ((heir.start 1).1.send 9 .press).1.snapshot = ⟨.off, 4, false⟩

end Lamp

open Lamp in
/-- The lamp that was pressed once is put away in either form, and goes on from there. -/
theorem Interpreter.resume_transparent_lamp :
    GoesOn (Checkpoint.ofText (dimmed.checkpoint "dimmer").toText) ∧
      GoesOn (Checkpoint.ofOctets (dimmed.checkpoint "dimmer").toOctets) := by
  have hbuild : dimmer.build = .ok dimmer.compile := rfl
  have hsmooth : dimmed.Smooth := by
    unfold Smooth
    decide
  have hnobody : ∀ o ∈ dimmed.subscribers, Mute o.react := fun _ ho => absurd ho List.not_mem_nil
  have hgoesOn {arrived : Except CheckpointError (Checkpoint State Int64)}
      (hcarried : (dimmed.checkpoint "dimmer").Carried arrived) : GoesOn arrived := by
    obtain ⟨heir, hresume, hgoes⟩ := resume_transparent hbuild dimmer_silent (.new 0 true)
      dimmed_course rfl rfl hsmooth hnobody hcarried
    obtain ⟨-, hstarts⟩ := hgoes heir.now heir.timers heir .refl
    obtain ⟨-, hstart, -, -, -, hserves⟩ := hstarts 1
    obtain ⟨hresults, hagree, -⟩ := hserves [(9, .press)] _ _ _ _
      (.next .refl (.done .refl)) (.next .refl (.done .refl))
    exact ⟨heir, hresume, hstart, (List.cons.inj hresults).1.trans rfl,
      hagree.snapshot.trans rfl⟩
  refine ⟨hgoesOn (.text (ofJson?_toJson _)), hgoesOn ?_⟩
  exact .octets (reads _ (by decide +kernel)) (by decide +kernel)

end Macrostep
