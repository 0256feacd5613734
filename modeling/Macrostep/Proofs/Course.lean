/-
# The course of an interpreter

A course is what can happen to an interpreter from outside, in any order: it is started, an event
leaves the inbox and is resolved, someone sends an event, observers come and go, warnings are
taken, time passes, and in the end it is stopped.  `Interpreter.Move` lists these moves and
`Interpreter.Course` is any number of them.

The calls on an interpreter are courses (`Interpreter.after_course`), and so is any list of calls.
A course is finer than that: others may send between two events of one call, and while an event is
resolved.  The laws of the following files hold on every course, and they are proved move by move.
-/
import Mathlib.Logic.Relation
import Macrostep.Checkpoint.Basic
import Macrostep.Proofs.ConcurrentSends

namespace Macrostep

namespace Interpreter

variable {S C E K O : Type} [DecidableEq S] [Label S] [DecidableEq K] [Kinded E K]

/-- An interpreter that has just been made, at the beginning of a machine or at a checkpoint, at any
time, with or without timers. -/
inductive Fresh (d : Definition S C E K O) (options : Options) : Interpreter S C E K O → Prop
  /-- At the beginning of the machine. -/
  | new (now : Nat) (timers : Bool) : Fresh d options { Interpreter.new d options with now, timers }
  /-- At a checkpoint. -/
  | resumed {cp : Checkpoint S C} {it : Interpreter S C E K O} (now : Nat) (timers : Bool)
      (hresume : resume d cp options = .ok it) : Fresh d options { it with now, timers }

section

omit [DecidableEq K] [Kinded E K]

variable {d : Definition S C E K O} {options : Options} {it : Interpreter S C E K O}

/-- An interpreter that is placed at a position, with a history behind it, and not started. -/
def placed (d : Definition S C E K O) (options : Options) (s : Snapshot S C)
    (history : History S) : Interpreter S C E K O where
  definition := d
  options
  snapshot := s
  history
  watched := ⟨s, 0⟩

/-- A checkpoint that is accepted places an interpreter. -/
lemma resume_of_validate {cp : Checkpoint S C} (h : cp.validate d = .ok ()) (options : Options) :
    resume d cp options =
      .ok (placed d options ⟨cp.state, cp.context, d.isFinal cp.state⟩ cp.history) := by
  rw [resume, h]
  rfl

/-- Only a checkpoint that is accepted is resumed. -/
lemma validate_of_resume {cp : Checkpoint S C} {it : Interpreter S C E K O}
    (h : resume d cp options = .ok it) :
    cp.validate d = .ok () ∧
      it = placed d options ⟨cp.state, cp.context, d.isFinal cp.state⟩ cp.history := by
  cases hvalid : cp.validate d with
  | error error =>
    rw [resume, hvalid] at h
    cases h
  | ok u =>
    rw [resume_of_validate hvalid] at h
    exact ⟨rfl, (Except.ok.inj h).symm⟩

/-- Whoever has just been made is placed somewhere at some time. -/
lemma Fresh.exists_placed (h : Fresh d options it) :
    ∃ now timers, it = { placed d options it.snapshot it.history with now, timers } := by
  cases h with
  | new now timers => exact ⟨now, timers, rfl⟩
  | resumed now timers hresume =>
    obtain ⟨-, rfl⟩ := validate_of_resume hresume
    exact ⟨now, timers, rfl⟩

/-- What an interpreter has at first. -/
structure Blank (d : Definition S C E K O) (options : Options) (it : Interpreter S C E K O) :
    Prop where
  definition : it.definition = d
  options : it.options = options
  status : it.status = .notStarted
  done : it.snapshot.done = d.isFinal it.snapshot.state
  inbox : it.inbox = {}
  effect : it.effect = none
  generation : it.generation = 0
  recorded : it.recorded = []

lemma Fresh.blank (h : Fresh d options it) : Blank d options it := by
  cases h with
  | new now timers => exact ⟨rfl, rfl, rfl, rfl, rfl, rfl, rfl, rfl⟩
  | resumed now timers hresume =>
    obtain ⟨-, rfl⟩ := validate_of_resume hresume
    exact ⟨rfl, rfl, rfl, rfl, rfl, rfl, rfl, rfl⟩

end

/-- What a start does before it looks at the inbox: the current state is entered, and eventless
transitions are taken. -/
def booting (it : Interpreter S C E K O) : Interpreter S C E K O × Except InterpreterError Unit :=
  ({ it with status := .running }.log (.started it.state)).launch.settle

/-- The interpreter when its start has published the first position. -/
def booted (it : Interpreter S C E K O) : Interpreter S C E K O := it.booting.1.emit

/-- The interpreter that has just taken an event from its inbox; `inbox` is what stays in it. -/
def receiving (it : Interpreter S C E K O) (envelope : Envelope E) (inbox : Inbox E) :
    Interpreter S C E K O :=
  { it with inbox }.log (.taken envelope)

/-- What happens to an interpreter at one time. -/
inductive Move (it : Interpreter S C E K O) : Interpreter S C E K O → Prop
  /-- It is started. -/
  | boot (hstatus : it.status = .notStarted) : Move it it.booted
  /-- An event leaves the inbox and is resolved. -/
  | turn {envelope : Envelope E} {inbox : Inbox E} (hstatus : it.status = .running)
      (hpop : it.inbox.pop? = some (envelope, inbox)) : Move it (it.step envelope inbox).1
  /-- It is started, and others send meanwhile. -/
  | bootAmid {it' : Interpreter S C E K O} (hstatus : it.status = .notStarted)
      (hamid : it.Meanwhile it.booted it') : Move it it'
  /-- An event is resolved, and others send meanwhile. -/
  | turnAmid {envelope : Envelope E} {inbox : Inbox E} {it' : Interpreter S C E K O}
      (hstatus : it.status = .running) (hpop : it.inbox.pop? = some (envelope, inbox))
      (hamid : (it.receiving envelope inbox).Meanwhile (it.step envelope inbox).1 it') : Move it it'
  /-- An observer comes, and others send meanwhile. -/
  | subscribeAmid {it' : Interpreter S C E K O} (react : Observer S C E O)
      (hamid : it.Meanwhile (it.subscribe react).1 it') : Move it it'
  /-- Someone sends an event through an outlet. -/
  | post (origin : Origin) (event : E) : Move it (it.enqueue origin event)
  /-- A start after the stop is ignored. -/
  | startIgnored : Move it (it.log .startIgnored)
  /-- An event is announced that is kept for the start. -/
  | deferred (event : E) : Move it (it.log (.deferred event))
  /-- An event before the start is lost. -/
  | dropped (event : E) : Move it (it.log (.dropped event))
  /-- An event after the stop is lost. -/
  | ignored (event : E) : Move it (it.log (.ignored event))
  /-- An observer comes. -/
  | subscribe (react : Observer S C E O) : Move it (it.subscribe react).1
  /-- An observer goes. -/
  | unsubscribe (id : Nat) : Move it (it.unsubscribe id).1
  /-- The warnings are taken. -/
  | takeWarnings : Move it it.takeWarnings.1
  /-- Time passes. -/
  | advance (time : Nat) (most : Option Nat) : Move it (it.advanceTo time most)
  /-- It is stopped. -/
  | halt : Move it it.stop.1

/-- What happens to an interpreter over time. -/
abbrev Course : Interpreter S C E K O → Interpreter S C E K O → Prop := Relation.ReflTransGen Move

/-! ## Emptying the inbox -/

section

variable {it it' : Interpreter S C E K O} {envelope : Envelope E} {inbox : Inbox E}

lemma drain_of_not_running (h : it.status ≠ .running) (budget : Nat) :
    it.drain budget = (it, .ok ()) := by
  rw [drain.eq_def]
  dsimp only
  rw [if_neg h]

lemma drain_of_empty (h : it.inbox.pop? = none) (budget : Nat) :
    it.drain budget = (it, .ok ()) := by
  rw [drain.eq_def]
  dsimp only
  rw [h]
  exact ite_self _

lemma drain_zero_of_pop (hstatus : it.status = .running)
    (hpop : it.inbox.pop? = some (envelope, inbox)) :
    it.drain 0 = (it, .error .budgetSpent) := by
  rw [drain.eq_def]
  dsimp only
  rw [if_pos hstatus, hpop]

lemma drain_succ_of_ok (hstatus : it.status = .running)
    (hpop : it.inbox.pop? = some (envelope, inbox)) (hok : (it.step envelope inbox).2 = .ok ())
    (budget : Nat) : it.drain (budget + 1) = (it.step envelope inbox).1.drain budget := by
  rw [drain.eq_def]
  dsimp only
  rw [if_pos hstatus, hpop]
  dsimp only
  rw [show it.step envelope inbox = ((it.step envelope inbox).1, .ok ()) from Prod.ext rfl hok]

lemma drain_succ_of_error {error : InterpreterError} (hstatus : it.status = .running)
    (hpop : it.inbox.pop? = some (envelope, inbox))
    (herr : (it.step envelope inbox).2 = .error error) (budget : Nat) :
    it.drain (budget + 1) = ((it.step envelope inbox).1, .error error) := by
  rw [drain.eq_def]
  dsimp only
  rw [if_pos hstatus, hpop]
  dsimp only
  rw [show it.step envelope inbox = ((it.step envelope inbox).1, .error error)
    from Prod.ext rfl herr]

/-- How emptying the inbox goes, with the number of events that may be resolved and the end to which
it comes. -/
inductive Draining : Interpreter S C E K O → Nat →
    Interpreter S C E K O × Except InterpreterError Unit → Prop
  /-- There is nothing to do. -/
  | done {it : Interpreter S C E K O} {budget : Nat}
      (hdone : it.status ≠ .running ∨ it.inbox.waiting = []) : Draining it budget (it, .ok ())
  /-- Nothing more is granted. -/
  | spent {it : Interpreter S C E K O} (hstatus : it.status = .running)
      (hwaiting : it.inbox.waiting ≠ []) : Draining it 0 (it, .error .budgetSpent)
  /-- An event is resolved, and then the rest. -/
  | next {it : Interpreter S C E K O} {budget : Nat} {envelope : Envelope E} {inbox : Inbox E}
      {r : Interpreter S C E K O × Except InterpreterError Unit} (hstatus : it.status = .running)
      (hpop : it.inbox.pop? = some (envelope, inbox)) (hok : (it.step envelope inbox).2 = .ok ())
      (hrest : Draining (it.step envelope inbox).1 budget r) : Draining it (budget + 1) r
  /-- An event fails. -/
  | failed {it : Interpreter S C E K O} {budget : Nat} {envelope : Envelope E} {inbox : Inbox E}
      {error : InterpreterError} (hstatus : it.status = .running)
      (hpop : it.inbox.pop? = some (envelope, inbox))
      (herr : (it.step envelope inbox).2 = .error error) :
      Draining it (budget + 1) ((it.step envelope inbox).1, .error error)

lemma drain_of_done (hdone : it.status ≠ .running ∨ it.inbox.waiting = []) (budget : Nat) :
    it.drain budget = (it, .ok ()) := by
  rcases hdone with hstatus | hwaiting
  · exact drain_of_not_running hstatus budget
  · exact drain_of_empty ((Inbox.pop?_eq_none_iff_waiting _).mpr hwaiting) budget

omit [DecidableEq S] [Label S] [DecidableEq K] [Kinded E K] in
/-- There is nothing to do, or there is a next event. -/
lemma done_or_pop (it : Interpreter S C E K O) :
    (it.status ≠ .running ∨ it.inbox.waiting = []) ∨
      it.status = .running ∧ ∃ envelope inbox, it.inbox.pop? = some (envelope, inbox) := by
  rcases Decidable.em (it.status = .running) with hstatus | hstatus
  · cases hpop : it.inbox.pop? with
    | none => exact .inl (.inr ((Inbox.pop?_eq_none_iff_waiting _).mp hpop))
    | some head => exact .inr ⟨hstatus, head.1, head.2, rfl⟩
  · exact .inl (.inl hstatus)

omit [DecidableEq S] [Label S] [DecidableEq K] [Kinded E K] in
/-- The event that waits first is the next one. -/
lemma pop?_of_waiting {behind : List (Envelope E)}
    (h : it.inbox.waiting = envelope :: behind) :
    ∃ inbox, it.inbox.pop? = some (envelope, inbox) ∧ inbox.waiting = behind := by
  cases hpop : it.inbox.pop? with
  | none =>
    rw [(Inbox.pop?_eq_none_iff_waiting _).mp hpop] at h
    cases h
  | some head =>
    obtain ⟨first, inbox⟩ := head
    have hwaiting := (Inbox.waiting_of_pop? hpop).1
    rw [h] at hwaiting
    obtain ⟨rfl, rfl⟩ := List.cons.inj hwaiting
    exact ⟨inbox, rfl, rfl⟩

theorem drain_spec (it : Interpreter S C E K O) (budget : Nat) :
    Draining it budget (it.drain budget) := by
  induction budget generalizing it with
  | zero =>
    rcases done_or_pop it with hdone | ⟨hstatus, envelope, inbox, hpop⟩
    · rw [drain_of_done hdone]
      exact .done hdone
    · rw [drain_zero_of_pop hstatus hpop]
      refine .spent hstatus ?_
      rw [(Inbox.waiting_of_pop? hpop).1]
      exact List.cons_ne_nil _ _
  | succ budget ih =>
    rcases done_or_pop it with hdone | ⟨hstatus, envelope, inbox, hpop⟩
    · rw [drain_of_done hdone]
      exact .done hdone
    · cases hstep : (it.step envelope inbox).2 with
      | ok u =>
        rw [drain_succ_of_ok hstatus hpop hstep]
        exact .next hstatus hpop hstep (ih _)
      | error error =>
        rw [drain_succ_of_error hstatus hpop hstep]
        exact .failed hstatus hpop hstep

lemma Course.drain (it : Interpreter S C E K O) (budget : Nat) : it.Course (it.drain budget).1 := by
  have h := drain_spec it budget
  generalize it.drain budget = r at h ⊢
  induction h with
  | done hdone => exact .refl
  | spent hstatus hwaiting => exact .refl
  | next hstatus hpop hok hrest ih => exact ih.head (.turn hstatus hpop)
  | failed hstatus hpop herr => exact .single (.turn hstatus hpop)

/-! ## Calls -/

lemma start_of_running (hstatus : it.status = .running) (budget : Nat) :
    it.start budget = (it, .ok it.snapshot) := by
  simp only [start, hstatus]

lemma start_of_stopped (hstatus : it.status = .stopped) (budget : Nat) :
    it.start budget = (it.log .startIgnored, .ok it.snapshot) := by
  simp only [start, hstatus]

lemma start_of_error {error : InterpreterError} (hstatus : it.status = .notStarted)
    (herr : it.booting.2 = .error error) (budget : Nat) :
    it.start budget = (it.booted, .error error) := by
  have hbooting : it.booting = (it.booting.1, .error error) := Prod.ext rfl herr
  simp only [start, hstatus]
  rw [show Interpreter.settle _ = it.booting from rfl, hbooting]
  rfl

lemma start_of_ok (hstatus : it.status = .notStarted) (hok : it.booting.2 = .ok ())
    (budget : Nat) :
    it.start budget =
      ((it.booted.drain budget).1,
        (it.booted.drain budget).2.map fun _ => (it.booted.drain budget).1.snapshot) := by
  have hbooting : it.booting = (it.booting.1, .ok ()) := Prod.ext rfl hok
  simp only [start, hstatus]
  rw [show Interpreter.settle _ = it.booting from rfl, hbooting]
  rfl

lemma processNext_of_not_running (hstatus : it.status ≠ .running) (budget : Nat) :
    it.processNext budget = (it, .inert) := by
  rw [processNext, if_neg hstatus]

lemma processNext_of_waiting (hstatus : it.status = .running)
    (hempty : it.inbox.queue.isEmpty = true) (budget : Nat) :
    it.processNext budget = (it, .waiting) := by
  rw [processNext, if_pos hstatus, if_pos hempty]

lemma processNext_of_ok (hstatus : it.status = .running)
    (hpending : ¬it.inbox.queue.isEmpty = true) {budget : Nat} (hok : (it.drain budget).2 = .ok ()) :
    it.processNext budget = ((it.drain budget).1, .settled (it.drain budget).1.snapshot) := by
  rw [processNext, if_pos hstatus, if_neg hpending,
    show it.drain budget = ((it.drain budget).1, .ok ()) from Prod.ext rfl hok]

lemma processNext_of_error {error : InterpreterError} (hstatus : it.status = .running)
    (hpending : ¬it.inbox.queue.isEmpty = true) {budget : Nat}
    (herr : (it.drain budget).2 = .error error) :
    it.processNext budget = ((it.drain budget).1, .failed error) := by
  rw [processNext, if_pos hstatus, if_neg hpending,
    show it.drain budget = ((it.drain budget).1, .error error) from Prod.ext rfl herr]

/-- Events are processed to an end if the machine is running and the inbox is emptied. -/
lemma drain_of_settled {budget : Nat} {s : Snapshot S C}
    (h : (it.processNext budget).2 = .settled s) :
    it.status = .running ∧ (it.drain budget).2 = .ok () ∧
      (it.processNext budget).1 = (it.drain budget).1 ∧ s = (it.drain budget).1.snapshot := by
  by_cases hstatus : it.status = .running
  · by_cases hempty : it.inbox.queue.isEmpty = true
    · rw [processNext_of_waiting hstatus hempty] at h
      cases h
    · cases hdrain : (it.drain budget).2 with
      | ok u =>
        rw [processNext_of_ok hstatus hempty hdrain] at h ⊢
        exact ⟨hstatus, rfl, rfl, (Next.settled.inj h).symm⟩
      | error error =>
        rw [processNext_of_error hstatus hempty hdrain] at h
        cases h
  · rw [processNext_of_not_running hstatus] at h
    cases h

end

/-- A call on an interpreter. -/
inductive Call (S C E O : Type)
  | start (budget : Nat)
  | send (budget : Nat) (event : E)
  | processNext (budget : Nat)
  | stop
  | post (origin : Origin) (event : E)
  | subscribe (react : Observer S C E O)
  | unsubscribe (id : Nat)
  | takeWarnings
  | advance (time : Nat) (most : Option Nat)

/-- The interpreter after a call. -/
def after (it : Interpreter S C E K O) : Call S C E O → Interpreter S C E K O
  | .start budget => (it.start budget).1
  | .send budget event => (it.send budget event).1
  | .processNext budget => (it.processNext budget).1
  | .stop => it.stop.1
  | .post origin event => it.enqueue origin event
  | .subscribe react => (it.subscribe react).1
  | .unsubscribe id => (it.unsubscribe id).1
  | .takeWarnings => it.takeWarnings.1
  | .advance time most => it.advanceTo time most

lemma Course.start (it : Interpreter S C E K O) (budget : Nat) : it.Course (it.start budget).1 := by
  cases hstatus : it.status with
  | running =>
    simp only [Interpreter.start, hstatus]
    exact .refl
  | stopped =>
    simp only [Interpreter.start, hstatus]
    exact .single .startIgnored
  | notStarted =>
    cases hbooting : it.booting.2 with
    | ok u =>
      rw [start_of_ok hstatus hbooting]
      exact (Course.drain _ _).head (.boot hstatus)
    | error error =>
      rw [start_of_error hstatus hbooting]
      exact .single (.boot hstatus)

lemma Course.send (it : Interpreter S C E K O) (budget : Nat) (event : E) :
    it.Course (it.send budget event).1 := by
  cases hstatus : it.status with
  | running =>
    simp only [Interpreter.send, hstatus]
    exact (Course.drain _ _).head (.post .external event)
  | stopped =>
    simp only [Interpreter.send, hstatus]
    exact .single (.ignored event)
  | notStarted =>
    simp only [Interpreter.send, hstatus]
    split
    · exact (Relation.ReflTransGen.single (.post .external event)).head (.deferred event)
    · exact .single (.dropped event)

lemma processNext_fst (it : Interpreter S C E K O) (budget : Nat) :
    (it.processNext budget).1 = it ∨ (it.processNext budget).1 = (it.drain budget).1 := by
  unfold processNext
  split
  · split
    · exact .inl rfl
    · split
      · rename_i h
        exact .inr (by rw [h])
      · rename_i h
        exact .inr (by rw [h])
  · exact .inl rfl

lemma Course.processNext (it : Interpreter S C E K O) (budget : Nat) :
    it.Course (it.processNext budget).1 := by
  rcases processNext_fst it budget with h | h
  · rw [h]
  · rw [h]
    exact Course.drain it budget

/-- Every call is a course. -/
theorem after_course (it : Interpreter S C E K O) (call : Call S C E O) :
    it.Course (it.after call) := by
  cases call with
  | start budget => exact Course.start it budget
  | send budget event => exact Course.send it budget event
  | processNext budget => exact Course.processNext it budget
  | stop => exact .single .halt
  | post origin event => exact .single (.post origin event)
  | subscribe react => exact .single (.subscribe react)
  | unsubscribe id => exact .single (.unsubscribe id)
  | takeWarnings => exact .single .takeWarnings
  | advance time most => exact .single (.advance time most)

/-- So is every list of calls. -/
theorem foldl_after_course (it : Interpreter S C E K O) (calls : List (Call S C E O)) :
    it.Course (calls.foldl after it) := by
  induction calls generalizing it with
  | nil => exact .refl
  | cons call calls ih => exact (after_course it call).trans (ih _)

end Interpreter

/-! ## A small machine

A lamp on which the laws are tried: pressed while it is off, it warms up and turns on by itself, and
while it is on an effect beats once.  The context counts what happened. -/

namespace Lamp

/-- The states of the lamp. -/
inductive State
  | off
  | warm
  | on
deriving DecidableEq

/-- The events of the lamp, each of a kind of its own. -/
inductive Event
  | press
  | beat
deriving DecidableEq

instance : Label State where
  name
    | .off => "Off"
    | .warm => "Warm"
    | .on => "On"

instance : Kinded Event Event where
  kind := id
  kindName
    | .press => "Press"
    | .beat => "Beat"

/-- The transition to a state, which counts. -/
def moving (target : Option State) : Transition State Nat Event Unit where
  guard := none
  actions := [.assign fun count _ => count + 1]
  target

/-- The effect of the lamp that is on. -/
def glow : Effect Nat Event Unit where
  id := "glow"
  launch _ _ := { outputs := [.send .beat], result := .ok { cleanup := some fun _ => {} } }

/-- The lamp. -/
def lamp : Definition State Nat Event Event Unit where
  id := "lamp"
  initial := .off
  context := 0
  nodes :=
    [(.off, { on := ⟨[(.press, [moving (some .warm)])]⟩ }),
      (.warm, { always := [moving (some .on)] }),
      (.on, { on := ⟨[(.press, [moving (some .off)]), (.beat, [moving none])]⟩, effect := glow })]
  shared := {}

/-- The lamp that has just been started. -/
def started : Interpreter State Nat Event Event Unit := ((Interpreter.new lamp).start 1).1

/-- The lamp that was pressed once. -/
def pressed : Interpreter State Nat Event Event Unit := (started.send 9 .press).1

lemma new_fresh : Interpreter.Fresh lamp {} (Interpreter.new lamp) := .new 0 true

lemma started_course : (Interpreter.new lamp).Course started := Interpreter.Course.start _ 1

lemma pressed_course : (Interpreter.new lamp).Course pressed :=
  started_course.trans (Interpreter.Course.send started 9 .press)

end Lamp

end Macrostep
