/-
# Reading a journal

A journal tells what happened in an interpreter, one occurrence after the other.  This file names
the readings by which the laws of the following files are stated: which envelopes the inbox took,
which of them left it to be resolved, what was published, which effects were attempted, started and
cleaned up, and to which inputs the machine gave an answer.  It also sorts occurrences by who
leaves them.

The outputs of user code add to the journal and to the inbox and change nothing else
(`Interpreter.performAll_frame`), and they do so in step: what the journal says was accepted is
what was queued (`Interpreter.Adds`).
-/
import Mathlib.Tactic.Lemma
import Macrostep.Interpreter.Run

namespace Macrostep

namespace Occurrence

variable {S C E O : Type}

/-- The envelope that the inbox took. -/
def accepted? : Occurrence S C E O → Option (Envelope E)
  | accepted envelope => some envelope
  | _ => none

/-- The envelope that left the inbox. -/
def taken? : Occurrence S C E O → Option (Envelope E)
  | taken envelope => some envelope
  | _ => none

/-- The snapshot that was published. -/
def emitted? : Occurrence S C E O → Option (Snapshot S C)
  | emitted snapshot => some snapshot
  | _ => none

/-- The state, the context and the number of an attempt to start an effect. -/
def attempt? : Occurrence S C E O → Option (S × C × Nat)
  | launching state context generation => some (state, context, generation)
  | _ => none

/-- The number of an attempt that succeeded. -/
def success? : Occurrence S C E O → Option Nat
  | launched _ generation => some generation
  | _ => none

/-- The failure of an attempt. -/
def failure? : Occurrence S C E O → Option EffectError
  | launchFailed error => some error
  | _ => none

/-- The number of the effect that was cleaned up. -/
def cleanup? : Occurrence S C E O → Option Nat
  | cleaned generation => some generation
  | _ => none

/-- Whether an output of user code left the occurrence. -/
def isReport : Occurrence S C E O → Bool
  | accepted _ | refused _ | noted _ | lent _ => true
  | _ => false

/-- Whether the occurrence belongs to the work on transitions and effects. -/
def isWork : Occurrence S C E O → Bool
  | transitioned .. | launching .. | launched .. | launchFailed _ | cleaned _ | cleanupFailed _
  | unsettled .. => true
  | o => o.isReport

/-- Whether the occurrence happens beside the resolution of events: an event came or was turned
away, or an observer was shown a snapshot. -/
def isAside : Occurrence S C E O → Bool
  | startIgnored | deferred _ | dropped _ | ignored _ | observed .. => true
  | o => o.isReport

/-- Whether the occurrence belongs to the life of effects: a state is entered, an effect is started
or cleaned up, or everything ends. -/
def isLife : Occurrence S C E O → Bool
  | started _ | transitioned .. | launching .. | launched .. | launchFailed _ | cleaned _
  | stopped _ => true
  | _ => false

end Occurrence

/-- The inputs to which a journal tells the answers, in order: `none` for the start, and the events
that were resolved.  An event that is discarded as stale is no input. -/
def inputsOf {S C E O : Type} : List (Occurrence S C E O) → List (Option E)
  | [] => []
  | .started _ :: rest => none :: inputsOf rest
  | .taken _ :: .stale _ _ :: rest => inputsOf rest
  | .taken envelope :: rest => some envelope.event :: inputsOf rest
  | _ :: rest => inputsOf rest

/-- The occurrence that an output of user code leaves. -/
def Output.report {S C E O : Type} (origin : Origin) (accepting : Bool) :
    Output E O → Occurrence S C E O
  | send event => if accepting then .accepted ⟨event, origin⟩ else .refused ⟨event, origin⟩
  | note content => .noted content
  | share => .lent origin

open Occurrence

section

variable {S C E O : Type}

lemma isReport_report (origin : Origin) (accepting : Bool) (output : Output E O) :
    (output.report origin accepting : Occurrence S C E O).isReport = true := by
  cases output with
  | send event => cases accepting <;> rfl
  | note content => rfl
  | share => rfl

lemma isWork_of_isReport {o : Occurrence S C E O} (h : o.isReport = true) : o.isWork = true := by
  cases o <;> first | rfl | exact absurd h (by simp [isReport])

lemma isAside_of_isReport {o : Occurrence S C E O} (h : o.isReport = true) : o.isAside = true := by
  cases o <;> first | rfl | exact absurd h (by simp [isReport])

lemma isLife_of_isAside {o : Occurrence S C E O} (h : o.isAside = true) : o.isLife = false := by
  cases o <;> first | rfl | exact absurd h (by simp [isAside, isReport])

lemma isLife_of_isReport {o : Occurrence S C E O} (h : o.isReport = true) : o.isLife = false :=
  isLife_of_isAside (isAside_of_isReport h)

/-! The readings that a class of occurrences says nothing to. -/

lemma taken?_of_isAside {o : Occurrence S C E O} (h : o.isAside = true) : o.taken? = none := by
  cases o <;> first | rfl | cases h

lemma emitted?_of_isAside {o : Occurrence S C E O} (h : o.isAside = true) : o.emitted? = none := by
  cases o <;> first | rfl | cases h

lemma emitted?_of_isWork {o : Occurrence S C E O} (h : o.isWork = true) : o.emitted? = none := by
  cases o <;> first | rfl | cases h

lemma attempt?_of_isLife {o : Occurrence S C E O} (h : o.isLife = false) : o.attempt? = none := by
  cases o <;> first | rfl | cases h

lemma success?_of_isLife {o : Occurrence S C E O} (h : o.isLife = false) : o.success? = none := by
  cases o <;> first | rfl | cases h

lemma failure?_of_isLife {o : Occurrence S C E O} (h : o.isLife = false) : o.failure? = none := by
  cases o <;> first | rfl | cases h

lemma cleanup?_of_isLife {o : Occurrence S C E O} (h : o.isLife = false) : o.cleanup? = none := by
  cases o <;> first | rfl | cases h

/-- An element of a journal that was written in two parts stands in the first or in the second. -/
lemma split_append {A : Type} {l more past rest : List A} {a : A}
    (h : l ++ more = past ++ a :: rest) :
    (∃ tail, l = past ++ a :: tail ∧ rest = tail ++ more) ∨
      ∃ head, past = l ++ head ∧ more = head ++ a :: rest := by
  rcases List.append_eq_append_iff.mp h with ⟨head, hpast, hmore⟩ | ⟨tail, hl, hrest⟩
  · exact .inr ⟨head, hpast, hmore⟩
  · cases tail with
    | nil => exact .inr ⟨[], by simpa using hl.symm, hrest.symm⟩
    | cons o tail =>
      obtain ⟨rfl, rfl⟩ := List.cons.inj hrest
      exact .inl ⟨tail, hl, rfl⟩

/-- A reading that passes over a class of occurrences finds nothing in a list of them. -/
lemma filterMap_eq_nil_of_class {A : Type} {p : Occurrence S C E O → Bool}
    {f : Occurrence S C E O → Option A} (hf : ∀ o, p o = true → f o = none)
    {l : List (Occurrence S C E O)} (hl : ∀ o ∈ l, p o = true) : l.filterMap f = [] := by
  rw [List.filterMap_eq_nil_iff]
  intro o ho
  exact hf o (hl o ho)

/-- User code cleans up nothing. -/
lemma cleanups_of_reports {reports : List (Occurrence S C E O)}
    (h : ∀ o ∈ reports, o.isReport = true) : reports.filterMap cleanup? = [] :=
  filterMap_eq_nil_of_class (fun _ ho => cleanup?_of_isLife (isLife_of_isReport ho)) h

end

namespace Interpreter

variable {S C E K O : Type}

/-- `it'` has come from `it` without an event leaving the inbox: `added` was written into the
journal, and the envelopes that it tells were accepted are the ones that were queued. -/
structure Adds (it : Interpreter S C E K O) (added : List (Occurrence S C E O))
    (it' : Interpreter S C E K O) : Prop where
  journal : it'.journal = it.journal ++ added
  taken : added.filterMap taken? = []
  waiting : it'.inbox.waiting = it.inbox.waiting ++ added.filterMap accepted?
  reception : it'.inbox.reception = it.inbox.reception

namespace Adds

variable {it it' it'' : Interpreter S C E K O} {added more : List (Occurrence S C E O)}

lemma refl (it : Interpreter S C E K O) : it.Adds [] it :=
  ⟨by simp, rfl, by simp, rfl⟩

lemma trans (h : it.Adds added it') (h' : it'.Adds more it'') : it.Adds (added ++ more) it'' where
  journal := by rw [h'.journal, h.journal, List.append_assoc]
  taken := by rw [List.filterMap_append, h.taken, h'.taken, List.append_nil]
  waiting := by rw [h'.waiting, h.waiting, List.filterMap_append, List.append_assoc]
  reception := h'.reception.trans h.reception

/-- Writing an occurrence that tells nothing of the inbox. -/
lemma log (it : Interpreter S C E K O) {o : Occurrence S C E O} (ht : o.taken? = none)
    (ha : o.accepted? = none) : it.Adds [o] (it.log o) where
  journal := journal_log it o
  taken := by simp [ht]
  waiting := by simp [Interpreter.log, ha]
  reception := rfl

/-- Changes of anything but the journal and the inbox do not matter. -/
lemma congr (h : it.Adds added it') {first last : Interpreter S C E K O}
    (hf : first.recorded = it.recorded) (hi : first.inbox = it.inbox)
    (hl : last.recorded = it'.recorded) (hj : last.inbox = it'.inbox) :
    first.Adds added last where
  journal := by
    have := h.journal
    simpa only [Interpreter.journal, hf, hl] using this
  taken := h.taken
  waiting := by rw [hi, hj]; exact h.waiting
  reception := by rw [hi, hj]; exact h.reception

end Adds

/-! ## What user code does -/

lemma enqueue_of_accepting {it : Interpreter S C E K O} (h : it.inbox.accepting = true)
    (origin : Origin) (event : E) :
    it.enqueue origin event =
      { it with inbox := it.inbox.push ⟨event, origin⟩ }.log (.accepted ⟨event, origin⟩) := by
  simp [enqueue, h]

lemma enqueue_of_not_accepting {it : Interpreter S C E K O} (h : it.inbox.accepting = false)
    (origin : Origin) (event : E) :
    it.enqueue origin event = it.log (.refused ⟨event, origin⟩) := by
  simp [enqueue, h]

lemma enqueue_adds (it : Interpreter S C E K O) (origin : Origin) (event : E) :
    it.Adds [(Output.send event).report origin it.inbox.accepting] (it.enqueue origin event) := by
  cases h : it.inbox.accepting with
  | true =>
    rw [enqueue_of_accepting h]
    exact
      { journal := by simp [Interpreter.journal, Interpreter.log, Output.report]
        taken := rfl
        waiting := by simp [Interpreter.log, h, Output.report, accepted?]
        reception := by simp [Interpreter.log] }
  | false =>
    rw [enqueue_of_not_accepting h]
    exact Adds.log it rfl rfl

lemma perform_adds (it : Interpreter S C E K O) (origin : Origin) (output : Output E O) :
    it.Adds [output.report origin it.inbox.accepting] (it.perform origin output) := by
  cases output with
  | send event => exact enqueue_adds it origin event
  | note content => exact Adds.log it rfl rfl
  | share => exact Adds.log it rfl rfl

/-- The outputs of user code leave a report each. -/
lemma performAll_adds (it : Interpreter S C E K O) (origin : Origin) (outputs : List (Output E O)) :
    it.Adds (outputs.map (·.report origin it.inbox.accepting)) (it.performAll origin outputs) := by
  induction outputs generalizing it with
  | nil => exact Adds.refl it
  | cons output outputs ih =>
    have hfirst := perform_adds it origin output
    have hrest := ih (it.perform origin output)
    have hacc : (it.perform origin output).inbox.accepting = it.inbox.accepting := by
      simp only [Inbox.accepting, hfirst.reception]
    rw [hacc] at hrest
    exact hfirst.trans hrest

lemma perform_frame (it : Interpreter S C E K O) (origin : Origin) (output : Output E O) :
    ∃ inbox recorded, it.perform origin output = { it with inbox, recorded } := by
  cases output with
  | send event =>
    cases h : it.inbox.accepting with
    | true => exact ⟨_, _, enqueue_of_accepting h origin event⟩
    | false => exact ⟨it.inbox, _, enqueue_of_not_accepting h origin event⟩
  | note content => exact ⟨it.inbox, _, rfl⟩
  | share => exact ⟨it.inbox, _, rfl⟩

/-- The outputs of user code change the inbox and the journal alone. -/
lemma performAll_frame (it : Interpreter S C E K O) (origin : Origin)
    (outputs : List (Output E O)) :
    ∃ inbox recorded, it.performAll origin outputs = { it with inbox, recorded } := by
  induction outputs generalizing it with
  | nil => exact ⟨it.inbox, it.recorded, rfl⟩
  | cons output outputs ih =>
    obtain ⟨inbox, recorded, hfirst⟩ := perform_frame it origin output
    obtain ⟨inbox', recorded', hrest⟩ := ih (it.perform origin output)
    refine ⟨inbox', recorded', ?_⟩
    change (it.perform origin output).performAll origin outputs = _
    rw [hrest, hfirst]

/-- Events of one origin are queued as user code would queue them. -/
lemma foldl_enqueue (it : Interpreter S C E K O) (origin : Origin) (events : List E) :
    events.foldl (enqueue · origin) it = it.performAll origin (events.map .send) := by
  rw [performAll, List.foldl_map]
  rfl

/-- While time passes, the ticker of the active effect sends events and puts its deadline off, or
there is no ticker. -/
lemma advanceTo_cases (it : Interpreter S C E K O) (time : Nat) (most : Option Nat) :
    it.advanceTo time most = { it with now := time } ∨
      ∃ (active : ActiveEffect E O) (events : List E) (due : Nat), it.effect = some active ∧
        it.advanceTo time most =
          { it.performAll (.effect active.generation) (events.map .send) with
            effect := some { active with due }
            now := time } := by
  unfold advanceTo
  cases heffect : it.effect with
  | none => exact .inl rfl
  | some active =>
    cases hticker : active.handle.ticker with
    | none =>
      simp only [hticker]
      exact .inl trivial
    | some ticker =>
      obtain ⟨count, due, hrun⟩ := ticker.exists_run (enqueue · (.effect active.generation)) time
        (most.getD (time + 1)) active.due it
      refine .inr ⟨active, List.replicate count ticker.event, due, rfl, ?_⟩
      simp only [hticker, hrun]
      rw [foldl_enqueue]

end Interpreter

end Macrostep
