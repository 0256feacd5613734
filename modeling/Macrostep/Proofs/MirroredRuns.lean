/-
# Interpreters that mirror each other

Two quiet interpreters of one machine that stand in the same position with the same events waiting
stay alike, whatever effects are active in them, whatever observers they have and whatever time it
is (`Interpreter.Mirrors`): given the same events they return the same results, take the same
transitions, publish the same snapshots and keep the same history apart from the times, as they go
in lockstep (`Interpreter.Mirrors.lockstep`).
-/
import Macrostep.Proofs.Lockstep
import Macrostep.Proofs.Observers
import Macrostep.Proofs.SilentMachines

namespace Macrostep

open Occurrence

/-! ## Histories apart from times -/

/-- An entry without its time. -/
def Entry.undated {S : Type} (entry : Entry S) : S × S × Option String :=
  (entry.source, entry.target, entry.event)

namespace History

variable {S : Type}

/-- The entries without their times, the oldest first. -/
def undated (history : History S) : List (S × S × Option String) :=
  history.toList.map Entry.undated

/-- What is recorded depends on the entries apart from their times. -/
lemma undated_push {history history' : History S} {entry entry' : Entry S}
    (h : history'.undated = history.undated) (hentry : entry'.undated = entry.undated)
    (limit : Option Nat) :
    (history'.push entry' limit).undated = (history.push entry limit).undated := by
  have hall : (history'.toList ++ [entry']).map Entry.undated =
      (history.toList ++ [entry]).map Entry.undated := by
    simp only [List.map_append, List.map_cons, List.map_nil, hentry]
    exact congrArg (· ++ _) h
  cases limit with
  | none =>
    have hpush (here : History S) (e : Entry S) : (here.push e none).toList = here.toList ++ [e] :=
      toList_record here e
    rw [undated, undated, hpush, hpush, hall]
  | some n =>
    have hlength : history'.length = history.length := by
      have := congrArg List.length h
      simpa [undated, toList, length] using this
    rw [undated, undated, toList_push_some, toList_push_some, List.map_drop, List.map_drop, hall,
      hlength]

end History

namespace Interpreter

variable {S C E K O : Type} {it it' it₁ it₁' : Interpreter S C E K O}
  {past past' : List (Occurrence S C E O)}

/-- Two interpreters agree: they are in the same position of the same machine, with the same history
apart from the times and the same events waiting, and since their journals told `past` and `past'`,
they have told the same of events and transitions. -/
structure Agree (past past' : List (Occurrence S C E O)) (it it' : Interpreter S C E K O) :
    Prop where
  definition : it'.definition = it.definition
  options : it'.options = it.options
  status : it'.status = it.status
  snapshot : it'.snapshot = it.snapshot
  history : it'.history.undated = it.history.undated
  waiting : it'.inbox.waiting = it.inbox.waiting
  told : ∃ told, it.progress = past ++ told ∧ it'.progress = past' ++ told

variable [DecidableEq S]

/-- Two interpreters agree and will go on to do so: both are quiet and listen, and no event waits
that an effect has sent. -/
structure Mirrors (past past' : List (Occurrence S C E O)) (it it' : Interpreter S C E K O) : Prop
    extends Agree past past' it it' where
  quiet : it.Quiet
  quiet' : it'.Quiet
  accepting : it.inbox.accepting = true
  accepting' : it'.inbox.accepting = true
  external : ∀ envelope ∈ it.inbox.waiting, envelope.origin = .external

namespace Mirrors

/-- What passes unnoticed in either of them does not matter. -/
lemma hushed (h : Mirrors past past' it it') (h₁ : it.Hushed it₁) (h₁' : it'.Hushed it₁') :
    Mirrors past past' it₁ it₁' where
  definition := (h₁'.definition.trans h.definition).trans h₁.definition.symm
  options := (h₁'.options.trans h.options).trans h₁.options.symm
  status := (h₁'.status.trans h.status).trans h₁.status.symm
  snapshot := (h₁'.snapshot.trans h.snapshot).trans h₁.snapshot.symm
  history := by rw [h₁'.history, h₁.history, h.history]
  waiting := by rw [h₁'.inbox, h₁.inbox, h.waiting]
  told := by
    rw [h₁'.progress, h₁.progress]
    exact h.told
  quiet := h₁.quiet
  quiet' := h₁'.quiet
  accepting := h₁.inbox ▸ h.accepting
  accepting' := h₁'.inbox ▸ h.accepting'
  external := h₁.inbox ▸ h.external

/-- The same is written down in both. -/
lemma log (h : Mirrors past past' it it') (o : Occurrence S C E O) :
    Mirrors past past' (it.log o) (it'.log o) where
  toAgree := { h.toAgree with
    told := by
      obtain ⟨told, htold, htold'⟩ := h.told
      refine ⟨told ++ [o].filter isProgress, ?_, ?_⟩
      · rw [progress_log, htold, List.append_assoc]
      · rw [progress_log, htold', List.append_assoc] }
  quiet := h.quiet.elsewhere
  quiet' := h.quiet'.elsewhere
  accepting := h.accepting
  accepting' := h.accepting'
  external := h.external

/-- Both get into the same position. -/
lemma moved (h : Mirrors past past' it it') (s : Snapshot S C) :
    Mirrors past past' { it with snapshot := s } { it' with snapshot := s } where
  toAgree := { h.toAgree with snapshot := rfl }
  quiet := h.quiet.elsewhere
  quiet' := h.quiet'.elsewhere
  accepting := h.accepting
  accepting' := h.accepting'
  external := h.external

/-- The same event is queued in both. -/
lemma enqueue (h : Mirrors past past' it it') (event : E) :
    Mirrors past past' (it.enqueue .external event) (it'.enqueue .external event) := by
  rw [enqueue_of_accepting h.accepting, enqueue_of_accepting h.accepting']
  refine log ?_ _
  exact
    { toAgree := { h.toAgree with
        waiting := by
          rw [Inbox.waiting_push_of_accepting h.accepting,
            Inbox.waiting_push_of_accepting h.accepting', h.waiting] }
      quiet := h.quiet.elsewhere
      quiet' := h.quiet'.elsewhere
      accepting := (Inbox.accepting_push ..).trans h.accepting
      accepting' := (Inbox.accepting_push ..).trans h.accepting'
      external := by
        rw [Inbox.waiting_push_of_accepting h.accepting, List.forall_mem_append]
        exact ⟨h.external, by simp⟩ }

/-- The next event is taken in both. -/
lemma taken (h : Mirrors past past' it it') {envelope : Envelope E} {inbox inbox' : Inbox E}
    (hpop : it.inbox.pop? = some (envelope, inbox))
    (hpop' : it'.inbox.pop? = some (envelope, inbox')) :
    Mirrors past past' { it with inbox } { it' with inbox := inbox' } := by
  obtain ⟨hwaiting, hreception⟩ := Inbox.waiting_of_pop? hpop
  obtain ⟨hwaiting', hreception'⟩ := Inbox.waiting_of_pop? hpop'
  have hbehind := h.waiting
  have hexternal := h.external
  rw [hwaiting, hwaiting'] at hbehind
  rw [hwaiting, List.forall_mem_cons] at hexternal
  exact
    { toAgree := { h.toAgree with waiting := List.tail_eq_of_cons_eq hbehind }
      quiet := h.quiet.elsewhere
      quiet' := h.quiet'.elsewhere
      accepting := by
        rw [Inbox.accepting, hreception]
        exact h.accepting
      accepting' := by
        rw [Inbox.accepting, hreception']
        exact h.accepting'
      external := hexternal.2 }

/-- Both enter a state. -/
lemma enter [Kinded E K] (h : Mirrors past past' it it') (target : S) (event : Option E) :
    Mirrors past past' (it.enter target event) (it'.enter target event) := by
  have hstate : it'.state = it.state := congrArg Snapshot.state h.snapshot
  have hlog := h.log (.transitioned it.state target event)
  rw [enter_eq, enter_eq, hstate]
  exact
    { hlog with
      history := by
        dsimp only
        rw [h.options]
        split
        · exact History.undated_push h.history (by simp only [Entry.undated]) _
        · exact h.history
      quiet := h.quiet.elsewhere
      quiet' := h.quiet'.elsewhere }

/-- Both publish the position in which they are. -/
lemma emit (h : Mirrors past past' it it') : Mirrors past past' it.emit it'.emit := by
  have hreplaced : Mirrors past past'
      { it with watched := ⟨it.snapshot, it.watched.version + 1⟩ }
      { it' with watched := ⟨it'.snapshot, it'.watched.version + 1⟩ } :=
    h.hushed (.uncounted h.quiet) (.uncounted h.quiet')
  have haired : Mirrors past past' it.aired it'.aired := by
    have hsame : (.emitted it'.snapshot : Occurrence S C E O) = .emitted it.snapshot := by
      rw [h.snapshot]
    unfold aired
    rw [hsame]
    exact hreplaced.log _
  exact haired.hushed (.notify haired.quiet) (.notify haired.quiet')

/-- Whatever is done to both, they mirror each other.  The effects that they leave and start may
differ, but nothing is heard of them. -/
theorem lockstep [Kinded E K] :
    Lockstep (Mirrors past past' : Interpreter S C E K O → Interpreter S C E K O → Prop) where
  log _ _ := log
  enqueue _ _ := enqueue
  abreast _ _ h :=
    { machine := congrArg Definition.bare h.definition
      options := h.options
      status := h.status
      snapshot := h.snapshot
      waiting := h.waiting
      accepting := h.accepting'.trans h.accepting.symm
      external := h.external }
  taken _ _ := taken
  moved _ _ := moved
  enter _ _ := enter
  leave _ _ h := h.hushed (.leave h.quiet) (.leave h.quiet')
  launch _ _ h := h.hushed (.launch h.quiet) (.launch h.quiet')
  emit _ _ := emit

end Mirrors

end Interpreter

end Macrostep
