/-
# The ledger of an inbox

Nothing that an inbox accepts is lost, doubled or overtaken.  Between any two moments the events
that were taken, followed by those that wait, are the ones that waited before, followed by those
that were accepted (`Interpreter.Balanced`).  Over a whole course the events taken so far are
therefore always a beginning of the events accepted so far, and until the stop the inbox holds
exactly the rest.

A call that empties the inbox either comes to its end with nothing waiting, or it is interrupted by
one event: then everything that was queued behind that event still waits, and what was sent during
its resolution comes after it (`Interpreter.Interrupted`).  This is so even if others send all the
time, between two events and while an event is resolved (`Interpreter.Crowded`).
-/
import Macrostep.Proofs.JournalOrder

namespace Macrostep

open Occurrence

variable {S C E K O : Type}

/-- What a journal tells next of an event that was taken: that it is discarded, which happens to
events of effects alone, that it is not handled, or the work on it and then one publication. -/
inductive Verdict (envelope : Envelope E) : List (Occurrence S C E O) → Prop
  | stale {generation : Nat} {rest : List (Occurrence S C E O)}
      (horigin : envelope.origin = .effect generation) :
      Verdict envelope (.stale envelope.event generation :: rest)
  | unhandled {state : S} {rest : List (Occurrence S C E O)} :
      Verdict envelope (.unhandled state envelope.event :: rest)
  | handled {work rest : List (Occurrence S C E O)} {s : Snapshot S C}
      (hwork : ∀ o ∈ work, o.isWork = true) : Verdict envelope (work ++ .emitted s :: rest)

lemma Verdict.append {envelope : Envelope E} {told : List (Occurrence S C E O)}
    (h : Verdict envelope told) (rest : List (Occurrence S C E O)) :
    Verdict envelope (told ++ rest) := by
  cases h with
  | stale horigin => exact .stale horigin
  | unhandled => exact .unhandled
  | handled hwork =>
    rw [List.append_assoc]
    exact .handled hwork

lemma taken_notMem_of_isWork {work : List (Occurrence S C E O)}
    (h : ∀ o ∈ work, o.isWork = true) (envelope : Envelope E) : .taken envelope ∉ work := by
  intro hmem
  cases h _ hmem

/-- Nothing is taken from the inbox up to the publication that follows work. -/
lemma taken_notMem_publication {work : List (Occurrence S C E O)}
    (h : ∀ o ∈ work, o.isWork = true) (s : Snapshot S C) (envelope : Envelope E) :
    .taken envelope ∉ work ++ [.emitted s] := by
  simpa using taken_notMem_of_isWork h envelope

/-- If a list begins with an event and no other one is taken in it, that event is the one. -/
lemma eq_of_taken_cons {before after tail : List (Occurrence S C E O)} {first envelope : Envelope E}
    (h : .taken first :: tail = before ++ .taken envelope :: after)
    (hno : .taken envelope ∉ tail) : first = envelope ∧ tail = after := by
  cases before with
  | nil =>
    obtain ⟨hfirst, hrest⟩ := List.cons.inj h
    exact ⟨Occurrence.taken.inj hfirst, hrest⟩
  | cons o before => exact absurd (by simp [(List.cons.inj h).2]) hno

section

variable [DecidableEq S] [DecidableEq K] [Kinded E K] {d : Definition S C E K O}
  {limit n n' : Nat} {s s' : Snapshot S C} {l : List (Occurrence S C E O)}

/-- A passage that takes an event begins with it. -/
lemma Passage.verdict {inputs : List (Option E)} (h : Passage d limit s n l inputs s' n')
    {before after : List (Occurrence S C E O)} {envelope : Envelope E}
    (hl : l = before ++ .taken envelope :: after) : Verdict envelope after := by
  have hmem : .taken envelope ∈ l := by simp [hl]
  -- an event is taken at the beginning of a passage or not at all
  cases h with
  | @aside o haside =>
    rw [← List.mem_singleton.mp hmem] at haside
    cases haside
  | opening heffort =>
    rcases List.mem_cons.mp hmem with hmem | hmem
    · cases hmem
    · exact absurd hmem (taken_notMem_publication heffort.isWork _ envelope)
  | stale horigin =>
    obtain ⟨rfl, rfl⟩ := eq_of_taken_cons hl (by simp)
    exact .stale horigin
  | unhandled hnone =>
    obtain ⟨rfl, rfl⟩ := eq_of_taken_cons hl (by simp)
    exact .unhandled
  | handled hlegs hsome heffort =>
    obtain ⟨rfl, rfl⟩ := eq_of_taken_cons hl (taken_notMem_publication heffort.isWork _ envelope)
    exact .handled heffort.isWork
  | closing heffort =>
    rcases List.mem_append.mp hmem with hmem | hmem
    · exact absurd hmem (taken_notMem_of_isWork heffort.isWork envelope)
    · cases List.mem_singleton.mp hmem

/-- In an orderly journal the verdict follows every event that is taken. -/
theorem Orderly.verdict (h : Orderly d limit s n l s' n') {before after : List (Occurrence S C E O)}
    {envelope : Envelope E} (hl : l = before ++ .taken envelope :: after) :
    Verdict envelope after := by
  induction h generalizing before after with
  | nil s n => exact absurd hl (by simp)
  | cons hfirst hrest ih =>
    rcases split_append hl with ⟨tail, hpassage, rfl⟩ | ⟨head, -, hafter⟩
    · exact (hfirst.verdict hpassage).append _
    · exact ih hafter

end

/-! ## Order of arrival -/

/-- What was taken is at any time a beginning of what was accepted. -/
def Fifo (journal : List (Occurrence S C E O)) : Prop :=
  ∀ past, past <+: journal → past.filterMap taken? <+: past.filterMap accepted?

namespace Fifo

variable {l more past : List (Occurrence S C E O)}

/-- A beginning of a list that goes on ends before or after the point from which it goes on. -/
lemma split_of_prefix (h : past <+: l ++ more) :
    past <+: l ∨ ∃ next, past = l ++ next ∧ next <+: more := by
  rcases List.prefix_or_prefix_of_prefix h (List.prefix_append l more) with hpast | ⟨next, rfl⟩
  · exact .inl hpast
  · exact .inr ⟨next, rfl, (List.prefix_append_right_inj l).mp h⟩

lemma append (h : Fifo l) (hno : more.filterMap taken? = []) : Fifo (l ++ more) := by
  intro past hpast
  rcases split_of_prefix hpast with hbefore | ⟨next, rfl, hnext⟩
  · exact h past hbefore
  · have hnone : next.filterMap taken? = [] := by
      have := hnext.filterMap taken?
      rwa [hno, List.prefix_nil] at this
    rw [List.filterMap_append, List.filterMap_append, hnone, List.append_nil]
    exact (h l List.prefix_rfl).trans (List.prefix_append ..)

/-- The event that has waited longest is taken. -/
lemma take {envelope : Envelope E} {behind : List (Envelope E)} (h : Fifo l)
    (hwaiting : l.filterMap accepted? = l.filterMap taken? ++ envelope :: behind) :
    Fifo (l ++ [.taken envelope]) := by
  intro past hpast
  rcases split_of_prefix hpast with hbefore | ⟨next, rfl, hnext⟩
  · exact h past hbefore
  · rcases List.prefix_cons_iff.mp hnext with rfl | ⟨tail, rfl, htail⟩
    · rw [List.append_nil]
      exact h l List.prefix_rfl
    · obtain rfl := List.prefix_nil.mp htail
      rw [List.filterMap_append, List.filterMap_append, hwaiting]
      exact ⟨behind, by simp [taken?, accepted?]⟩

end Fifo

namespace Interpreter

variable {it it' it₁ it₀ : Interpreter S C E K O} {told more : List (Occurrence S C E O)}

/-! ## Between two moments -/

/-- `it'` has come from `it`, the journal tells of it, and the inbox is in balance. -/
structure Balanced (it : Interpreter S C E K O) (told : List (Occurrence S C E O))
    (it' : Interpreter S C E K O) : Prop where
  journal : it'.journal = it.journal ++ told
  balance : told.filterMap taken? ++ it'.inbox.waiting =
    it.inbox.waiting ++ told.filterMap accepted?

namespace Balanced

lemma refl (it : Interpreter S C E K O) : it.Balanced [] it :=
  ⟨by simp, by simp⟩

lemma trans (h : it.Balanced told it₁) (h' : it₁.Balanced more it') :
    it.Balanced (told ++ more) it' where
  journal := by rw [h'.journal, h.journal, List.append_assoc]
  balance := by
    rw [List.filterMap_append, List.filterMap_append, List.append_assoc, h'.balance,
      ← List.append_assoc, h.balance, List.append_assoc]

lemma of_adds (h : it.Adds told it') : it.Balanced told it' where
  journal := h.journal
  balance := by rw [h.taken, h.waiting, List.nil_append]

end Balanced

/-- One event interrupted what emptied the inbox: the events before it were taken, those behind it
wait, and those that came during its resolution wait after them. -/
structure Interrupted (it it' : Interpreter S C E K O) : Prop where
  cause : ∃ (before during : List (Occurrence S C E O)) (envelope : Envelope E)
    (behind : List (Envelope E)),
    it'.journal = it.journal ++ (before ++ .taken envelope :: during) ∧
      during.filterMap taken? = [] ∧
      it.inbox.waiting ++ before.filterMap accepted? =
        before.filterMap taken? ++ envelope :: behind ∧
      it'.inbox.waiting = behind ++ during.filterMap accepted?

/-- What happened before does not matter to an interruption. -/
lemma Interrupted.of_balanced (h : it.Balanced told it₁) (h' : it₁.Interrupted it') :
    it.Interrupted it' := by
  obtain ⟨before, during, envelope, behind, hjournal, hduring, hbefore, hbehind⟩ := h'.cause
  refine ⟨told ++ before, during, envelope, behind, ?_, hduring, ?_, hbehind⟩
  · rw [hjournal, h.journal]
    simp
  · calc it.inbox.waiting ++ (told ++ before).filterMap accepted?
        = (it.inbox.waiting ++ told.filterMap accepted?) ++ before.filterMap accepted? := by simp
      _ = told.filterMap taken? ++ (it₁.inbox.waiting ++ before.filterMap accepted?) := by
        rw [← h.balance, List.append_assoc]
      _ = (told ++ before).filterMap taken? ++ envelope :: behind := by
        rw [hbefore]
        simp

/-- What a call did that empties the inbox: it took events in balance, and it came to its end with
nothing waiting or it was interrupted. -/
structure Emptying {A : Type} (it : Interpreter S C E K O) (result : Except InterpreterError A)
    (it' : Interpreter S C E K O) : Prop where
  balanced : ∃ told, it.Balanced told it'
  completed : ∀ a, result = .ok a → it'.inbox.waiting = []
  interrupted : ∀ state steps, result = .error (.nonTerminatingChain state steps) →
    it.Interrupted it'

lemma Emptying.of_balanced {A : Type} {result : Except InterpreterError A}
    (h : it.Balanced told it₁) (h' : it₁.Emptying result it') : it.Emptying result it' where
  balanced := h'.balanced.elim fun _ hmore => ⟨_, h.trans hmore⟩
  completed := h'.completed
  interrupted state steps hresult := .of_balanced h (h'.interrupted state steps hresult)

lemma Emptying.map {A B : Type} {result : Except InterpreterError A} (h : it.Emptying result it')
    (f : A → B) : it.Emptying (result.map f) it' := by
  refine ⟨h.balanced, fun b hb => ?_, fun state steps herr => ?_⟩
  · cases result with
    | ok a => exact h.completed a rfl
    | error error => cases hb
  · cases result with
    | ok a => cases herr
    | error error =>
      cases herr
      exact h.interrupted state steps rfl

/-! ## Emptying the inbox -/

variable [DecidableEq S] [Label S] [DecidableEq K] [Kinded E K]

/-- The resolution of an event takes that event and no other one, whatever others send. -/
lemma step_takes {envelope : Envelope E} {inbox : Inbox E}
    (hpop : it.inbox.pop? = some (envelope, inbox))
    (hamid : (it.receiving envelope inbox).Meanwhile (it.step envelope inbox).1 it') :
    ∃ during, it'.journal = it.journal ++ .taken envelope :: during ∧
      during.filterMap taken? = [] ∧
      it.inbox.waiting = envelope :: inbox.waiting ∧
      it'.inbox.waiting = inbox.waiting ++ during.filterMap accepted? := by
  obtain ⟨told, -, hadds⟩ := resolve_adds (it.receiving envelope inbox) envelope
  obtain ⟨first, -, -, rest', -, -, -, hadds'⟩ := hamid.adds hadds
  exact ⟨first :: rest', journal_of_receiving hadds', hadds'.taken,
    (Inbox.waiting_of_pop? hpop).1, hadds'.waiting⟩

lemma step_balanced {envelope : Envelope E} {inbox : Inbox E}
    (hpop : it.inbox.pop? = some (envelope, inbox))
    (hamid : (it.receiving envelope inbox).Meanwhile (it.step envelope inbox).1 it') :
    ∃ told, it.Balanced told it' := by
  obtain ⟨during, hjournal, hduring, hwaiting, hrest⟩ := step_takes hpop hamid
  refine ⟨_, hjournal, ?_⟩
  rw [List.filterMap_cons_some (f := taken?) rfl, List.filterMap_cons_none (f := accepted?) rfl,
    hduring, hwaiting, hrest]
  rfl

lemma step_interrupted {envelope : Envelope E} {inbox : Inbox E}
    (hpop : it.inbox.pop? = some (envelope, inbox))
    (hamid : (it.receiving envelope inbox).Meanwhile (it.step envelope inbox).1 it') :
    it.Interrupted it' := by
  obtain ⟨during, hjournal, hduring, hwaiting, hrest⟩ := step_takes hpop hamid
  exact ⟨[], during, envelope, inbox.waiting, hjournal, hduring, by simp [hwaiting], hrest⟩

/-- How emptying the inbox goes among others, who send while an event is resolved and do anything
beside the machine between two events. -/
inductive Crowded : Interpreter S C E K O →
    Interpreter S C E K O × Except InterpreterError Unit → Prop
  /-- There is nothing to do. -/
  | done {it : Interpreter S C E K O} (hdone : it.status ≠ .running ∨ it.inbox.waiting = []) :
      Crowded it (it, .ok ())
  /-- Nothing more is granted. -/
  | spent (it : Interpreter S C E K O) : Crowded it (it, .error .budgetSpent)
  /-- Others do something. -/
  | beside {it it₁ : Interpreter S C E K O} {told : List (Occurrence S C E O)}
      {r : Interpreter S C E K O × Except InterpreterError Unit} (hbeside : it.Beside told it₁)
      (hrest : Crowded it₁ r) : Crowded it r
  /-- An event is resolved, and then the rest. -/
  | next {it it₁ : Interpreter S C E K O} {envelope : Envelope E} {inbox : Inbox E}
      {r : Interpreter S C E K O × Except InterpreterError Unit} (hstatus : it.status = .running)
      (hpop : it.inbox.pop? = some (envelope, inbox)) (hok : (it.step envelope inbox).2 = .ok ())
      (hamid : (it.receiving envelope inbox).Meanwhile (it.step envelope inbox).1 it₁)
      (hrest : Crowded it₁ r) : Crowded it r
  /-- An event fails. -/
  | failed {it it₁ : Interpreter S C E K O} {envelope : Envelope E} {inbox : Inbox E}
      {error : InterpreterError} (hstatus : it.status = .running)
      (hpop : it.inbox.pop? = some (envelope, inbox))
      (herr : (it.step envelope inbox).2 = .error error)
      (hamid : (it.receiving envelope inbox).Meanwhile (it.step envelope inbox).1 it₁) :
      Crowded it (it₁, .error error)

/-- Perhaps nobody else does anything. -/
lemma Draining.crowded {budget : Nat} {r : Interpreter S C E K O × Except InterpreterError Unit}
    (h : Draining it budget r) : it.Crowded r := by
  induction h with
  | done hdone => exact .done hdone
  | spent hstatus hwaiting => exact .spent _
  | next hstatus hpop hok hrest ih => exact .next hstatus hpop hok (step_meanwhile _ _ _) ih
  | failed hstatus hpop herr => exact .failed hstatus hpop herr (step_meanwhile _ _ _)

theorem Crowded.emptying {r : Interpreter S C E K O × Except InterpreterError Unit}
    (h : it.Crowded r) (hrunning : it.status = .running) : it.Emptying r.2 r.1 := by
  induction h with
  | @done it hdone =>
    refine ⟨⟨[], Balanced.refl it⟩, fun _ _ => ?_, nofun⟩
    exact hdone.resolve_left fun hno => hno hrunning
  | spent it => exact ⟨⟨[], Balanced.refl it⟩, nofun, nofun⟩
  | beside hbeside hrest ih =>
    exact .of_balanced (.of_adds hbeside.toAdds) (ih (hbeside.status.trans hrunning))
  | @next it it₁ envelope inbox r hstatus hpop hok hamid hrest ih =>
    obtain ⟨told, hstep⟩ := step_balanced hpop hamid
    have hstatus₁ : it₁.status = .running := by
      rw [hamid.same]
      exact (step_status it envelope inbox).trans hstatus
    exact .of_balanced hstep (ih hstatus₁)
  | failed hstatus hpop herr hamid =>
    exact ⟨step_balanced hpop hamid, nofun, fun _ _ _ => step_interrupted hpop hamid⟩

lemma drain_emptying (hrunning : it.status = .running) (budget : Nat) :
    it.Emptying (it.drain budget).2 (it.drain budget).1 :=
  (drain_spec it budget).crowded.emptying hrunning

/-! ## Calls that empty the inbox -/

lemma send_of_running (h : it.status = .running) (budget : Nat) (event : E) :
    it.send budget event = (it.enqueue .external event).drain budget := by
  simp only [send, h]

theorem send_emptying (hrunning : it.status = .running) (budget : Nat) (event : E) :
    it.Emptying (it.send budget event).2 (it.send budget event).1 := by
  have hpost := Beside.enqueue it .external event
  rw [send_of_running hrunning]
  exact .of_balanced (.of_adds hpost.toAdds)
    (drain_emptying (hpost.status.trans hrunning) budget)

/-- The result of waiting for the next event. -/
def Next.result : Next S C → Except InterpreterError Unit
  | .failed error => .error error
  | _ => .ok ()

theorem processNext_emptying (hrunning : it.status = .running) (budget : Nat) :
    it.Emptying (it.processNext budget).2.result (it.processNext budget).1 := by
  have hdrain := drain_emptying hrunning budget
  by_cases hempty : it.inbox.queue.isEmpty = true
  · rw [processNext_of_waiting hrunning hempty]
    refine ⟨⟨[], Balanced.refl it⟩, fun _ _ => (Queue.isEmpty_iff _).mp hempty, ?_⟩
    intro state steps herr
    cases herr
  · cases hend : (it.drain budget).2 with
    | ok u =>
      rw [hend] at hdrain
      rwa [processNext_of_ok hrunning hempty hend]
    | error error =>
      rw [hend] at hdrain
      rwa [processNext_of_error hrunning hempty hend]

/-- The first start empties the inbox like the others, unless the eventless transitions of the first
position already fail; then nothing was taken. -/
theorem start_emptying (hstatus : it.status = .notStarted) (budget : Nat) :
    it.Emptying (it.start budget).2 (it.start budget).1 ∨
      (∃ error, (it.start budget).2 = .error error) ∧ ∃ told, it.Adds told (it.start budget).1 := by
  obtain ⟨told, -, hbooted⟩ := booted_adds it
  cases hresult : it.booting.2 with
  | error error =>
    -- the start fails before it looks at the inbox
    rw [start_of_error hstatus hresult]
    exact .inr ⟨⟨error, rfl⟩, told, hbooted⟩
  | ok u =>
    rw [start_of_ok hstatus hresult]
    have hdrain := drain_emptying (booted_status it) budget
    exact .inl (.of_balanced (.of_adds hbooted) (hdrain.map _))

/-! ## Over a whole course -/

omit [DecidableEq S] [Label S] [DecidableEq K] [Kinded E K] in
lemma Halting.taken (h : it.Halting told it') : told.filterMap taken? = [] := by
  obtain ⟨rest, hrest, rfl⟩ := h.shape
  rw [List.filterMap_eq_nil_iff]
  intro o ho
  simp only [List.mem_append, List.mem_singleton, farewell, List.mem_map] at ho
  rcases ho with (⟨active, -, rfl⟩ | ho) | rfl
  · rfl
  · rcases hrest o ho with hreport | ⟨error, rfl⟩
    · exact taken?_of_isAside (isAside_of_isReport hreport)
    · rfl
  · rfl

/-- What was taken is always a beginning of what was accepted, and until the stop the inbox holds
the rest. -/
structure Ledger (it : Interpreter S C E K O) : Prop where
  fifo : Fifo it.journal
  rest : it.status ≠ .stopped →
    it.journal.filterMap accepted? = it.journal.filterMap taken? ++ it.inbox.waiting

namespace Ledger

omit [DecidableEq S] [Label S] [DecidableEq K] [Kinded E K] in
lemma of_adds (h : it.Ledger) (hadds : it.Adds told it')
    (hstatus : it.status = .stopped → it'.status = .stopped) : it'.Ledger where
  fifo := by
    rw [hadds.journal]
    exact h.fifo.append hadds.taken
  rest hrunning := by
    rw [hadds.journal, List.filterMap_append, List.filterMap_append, hadds.taken, hadds.waiting,
      h.rest fun hstopped => hrunning (hstatus hstopped)]
    simp

lemma step {envelope : Envelope E} {inbox : Inbox E} (h : it.Ledger)
    (hrunning : it.status = .running) (hpop : it.inbox.pop? = some (envelope, inbox))
    (hamid : (it.receiving envelope inbox).Meanwhile (it.step envelope inbox).1 it') :
    it'.Ledger := by
  obtain ⟨during, hjournal, hduring, hwaiting, hrest⟩ := step_takes hpop hamid
  have hbefore := h.rest (by rw [hrunning]; nofun)
  rw [hwaiting] at hbefore
  refine ⟨?_, fun _ => ?_⟩
  · have hsplit : it'.journal = (it.journal ++ [.taken envelope]) ++ during := by
      rw [hjournal, List.append_assoc]
      rfl
    rw [hsplit]
    exact (h.fifo.take hbefore).append hduring
  · rw [hjournal, hrest, List.filterMap_append, List.filterMap_append, hbefore,
      List.filterMap_cons_some (f := taken?) rfl, List.filterMap_cons_none (f := accepted?) rfl,
      hduring]
    simp

/-- Every move keeps the ledger. -/
theorem move (h : it.Ledger) (hmove : it.Move it') : it'.Ledger := by
  rcases hmove.beside_or with
    ⟨told, hbeside⟩ | ⟨hstatus, hamid⟩ | ⟨hrunning, envelope, inbox, hpop, hamid⟩ | rfl
  · exact h.of_adds hbeside.toAdds fun hstopped => hbeside.status.trans hstopped
  · obtain ⟨told, hadds⟩ := adds_of_booted_meanwhile hamid
    exact h.of_adds hadds fun hstopped => by rw [hstatus] at hstopped; cases hstopped
  · exact h.step hrunning hpop hamid
  · by_cases hstopped : it.status = .stopped
    · rwa [stop_of_stopped hstopped]
    obtain ⟨told, hhalt⟩ := stop_spec hstopped
    refine ⟨?_, fun hno => absurd hhalt.status hno⟩
    rw [hhalt.journal]
    exact h.fifo.append hhalt.taken

end Ledger

variable {d : Definition S C E K O} {options : Options}

omit [DecidableEq K] [Kinded E K] in
lemma Fresh.ledger (h : Fresh d options it) : it.Ledger where
  fifo := by
    intro past hpast
    rw [journal, h.blank.recorded] at hpast
    obtain rfl := List.prefix_nil.mp hpast
    exact List.prefix_rfl
  rest _ := by
    rw [journal, h.blank.recorded, h.blank.inbox]
    rfl

theorem Course.ledger (hfresh : Fresh d options it₀) (hcourse : it₀.Course it) : it.Ledger := by
  induction hcourse with
  | refl => exact hfresh.ledger
  | tail hcourse hmove ih => exact ih.move hmove

/-- Events run to completion, and none is lost, doubled or overtaken, whatever others send and when
they send it. -/
theorem run_to_completion (hfresh : Fresh d options it₀) (hcourse : it₀.Course it) :
    (∀ past, past <+: it.journal → past.filterMap taken? <+: past.filterMap accepted?) ∧
    (it.status ≠ .stopped →
      it.journal.filterMap accepted? = it.journal.filterMap taken? ++ it.inbox.waiting) ∧
    Orderly d options.maxEventlessSteps it₀.snapshot 0 it.journal it.snapshot it.generation ∧
    (∀ past envelope rest, it.journal = past ++ .taken envelope :: rest → Verdict envelope rest) ∧
    (it.status = .notStarted →
      (∀ budget, it.Emptying (it.start budget).2 (it.start budget).1 ∨
        (∃ error, (it.start budget).2 = .error error) ∧
          ∃ told, it.Adds told (it.start budget).1) ∧
      ∀ it₁, it.Meanwhile it.booted it₁ →
        (∃ told, it.Adds told it₁) ∧ ∀ r, it₁.Crowded r → it.Emptying r.2 r.1) ∧
    (it.status = .running →
      (∀ budget event, it.Emptying (it.send budget event).2 (it.send budget event).1) ∧
      (∀ budget, it.Emptying (it.processNext budget).2.result (it.processNext budget).1) ∧
      ∀ r, it.Crowded r → it.Emptying r.2 r.1) := by
  obtain ⟨-, horderly⟩ := Course.sound hfresh hcourse
  have hledger := Course.ledger hfresh hcourse
  refine ⟨hledger.fifo, hledger.rest, horderly, ?_, ?_, ?_⟩
  · intro past envelope rest hjournal
    exact horderly.verdict hjournal
  · intro hstatus
    refine ⟨start_emptying hstatus, fun it₁ hamid => ?_⟩
    obtain ⟨told, hadds⟩ := adds_of_booted_meanwhile hamid
    refine ⟨⟨told, hadds⟩, fun r hcrowded => .of_balanced (.of_adds hadds) (hcrowded.emptying ?_)⟩
    rw [hamid.same]
    exact booted_status it
  · intro hrunning
    exact ⟨send_emptying hrunning, processNext_emptying hrunning,
      fun r hcrowded => hcrowded.emptying hrunning⟩

open Lamp in
/-- The lamp that was pressed has taken what came, and the next press leaves nothing behind. -/
theorem run_to_completion_lamp :
    pressed.journal.filterMap accepted? = pressed.journal.filterMap taken? ++ [] ∧
      (pressed.send 9 .press).1.inbox.waiting = [] := by
  obtain ⟨-, hrest, -, -, -, hcalls⟩ := run_to_completion new_fresh pressed_course
  refine ⟨hrest ?_, ?_⟩
  · rw [show pressed.status = .running from rfl]
    nofun
  · exact ((hcalls rfl).1 9 .press).completed () rfl

end Interpreter

end Macrostep
