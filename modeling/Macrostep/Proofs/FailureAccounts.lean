/-
# Accounting for failures

The failures of effects on entries and exits become warnings, which are taken at any time and
together; the failure of the last cleanup is what the stop gives back.  A run tells what was handed
out on either way (`Interpreter.Run`).  In every run the books are in order (`Interpreter.Account`):
up to the stop things stand as an onlooker believes, and the stop closes the account.

So what was taken, what is held and what the stop gave back are the failures that an onlooker has
seen, each once and in this order, however calls, the sends of others and failures come together
(`Interpreter.failures_reported_once`).
-/
import Macrostep.Proofs.AfterStop
import Macrostep.Proofs.EffectFailures
import Macrostep.Proofs.Emission
import Macrostep.Proofs.OptionChange

namespace Macrostep

open Occurrence

namespace Interpreter

variable {S C E K O : Type} [DecidableEq S] [Label S] [DecidableEq K] [Kinded E K]
  {it it' it₀ : Interpreter S C E K O} {d : Definition S C E K O} {timed : Bool}
  {handed : List EffectError}

/-! ## Calls -/

/-- The failures that a call gives back as warnings. -/
def Outcome.taken : Outcome S C → List EffectError
  | .warned warnings => warnings
  | _ => []

/-- The failures that a call gives back that stops the interpreter. -/
def Outcome.last : Outcome S C → List EffectError
  | .stopped failures => failures
  | _ => []

/-- The error that a call ends with. -/
def Outcome.error? : Outcome S C → Option InterpreterError
  | .started (.error error) | .sent (.error error) | .processed (.failed error) => some error
  | _ => none

lemma Honest.start (h : Honest d timed handed it) (budget : Nat) :
    Honest d timed handed (it.start budget).1 := by
  cases hstatus : it.status with
  | running => rwa [start_of_running hstatus]
  | stopped =>
    rw [start_of_stopped hstatus]
    exact h.log rfl
  | notStarted =>
    cases hbooting : it.booting.2 with
    | ok u =>
      rw [start_of_ok hstatus hbooting]
      exact h.booted.drain budget
    | error error =>
      rw [start_of_error hstatus hbooting]
      exact h.booted

lemma Honest.send (h : Honest d timed handed it) (budget : Nat) (event : E) :
    Honest d timed handed (it.send budget event).1 := by
  cases hstatus : it.status with
  | running =>
    rw [send_of_running hstatus]
    exact (h.spares (.enqueue it .external event)).drain budget
  | stopped =>
    simp only [Interpreter.send, hstatus]
    exact h.log rfl
  | notStarted =>
    simp only [Interpreter.send, hstatus]
    split
    · exact (h.log rfl).spares (.enqueue _ .external event)
    · exact h.log rfl

lemma Honest.processNext (h : Honest d timed handed it) (budget : Nat) :
    Honest d timed handed (it.processNext budget).1 := by
  rcases processNext_fst it budget with hsame | hdrained
  · rwa [hsame]
  · rw [hdrained]
    exact h.drain budget

omit [Label S] [DecidableEq K] [Kinded E K] in
/-- When the warnings are taken, what was held has been handed out. -/
lemma Honest.takeWarnings (h : Honest d timed handed it) :
    Honest d timed (handed ++ it.warnings) it.takeWarnings.1 :=
  ⟨⟨h.definition, h.timers, h.accepting, h.running, (List.append_nil _).trans h.failures⟩,
    h.leaving⟩

omit [Label S] [DecidableEq K] [Kinded E K] in
/-- The stop gives back how the last cleanup failed, and nothing else fails. -/
lemma Honest.stop (h : Honest d timed handed it) (hstatus : it.status ≠ .stopped) :
    handed ++ it.stop.1.warnings ++ it.stop.2 =
      (Onlooker.after d timed it.stop.1.journal).failures := by
  have hquits := quits_of_not_stopped hstatus
  obtain ⟨rest, hrest, hwords⟩ := it.lastWords_eq_farewell
  have hquiet : ∀ o ∈ rest, o.isTelling = false := by
    intro o ho
    rcases hrest o ho with hreport | ⟨error, rfl⟩
    · exact isTelling_of_isReport hreport
    · rfl
  rw [hquits.warnings, hquits.failures, hquits.journal, hwords, Onlooker.after_append,
    List.foldl_append, List.foldl_append, Onlooker.foldl_see_of_not_isTelling hquiet]
  exact (h.farewell.2 false).symm

/-! ## Runs -/

/-- A run of an interpreter from `it₀`, with the failures that it has handed out: `taken` was given
back as warnings, and `last` by those who stopped it. -/
inductive Run (it₀ : Interpreter S C E K O) :
    List EffectError → List EffectError → Interpreter S C E K O → Prop
  /-- Nothing has happened. -/
  | begin : Run it₀ [] [] it₀
  /-- A call is made. -/
  | call {taken last : List EffectError} {it : Interpreter S C E K O} (h : Run it₀ taken last it)
      (call : Call S C E O) :
      Run it₀ (taken ++ (it.outcome call).taken) (last ++ (it.outcome call).last) (it.after call)
  /-- It is started, and others send meanwhile. -/
  | bootAmid {taken last : List EffectError} {it it' : Interpreter S C E K O}
      (h : Run it₀ taken last it) (hstatus : it.status = .notStarted)
      (hamid : it.Meanwhile it.booted it') : Run it₀ taken last it'
  /-- An event is resolved, and others send meanwhile. -/
  | turnAmid {taken last : List EffectError} {it it' : Interpreter S C E K O}
      {envelope : Envelope E} {inbox : Inbox E} (h : Run it₀ taken last it)
      (hstatus : it.status = .running) (hpop : it.inbox.pop? = some (envelope, inbox))
      (hamid : (it.receiving envelope inbox).Meanwhile (it.step envelope inbox).1 it') :
      Run it₀ taken last it'
  /-- An observer comes, and others send meanwhile. -/
  | subscribeAmid {taken last : List EffectError} {it it' : Interpreter S C E K O}
      (h : Run it₀ taken last it) (react : Observer S C E O)
      (hamid : it.Meanwhile (it.subscribe react).1 it') : Run it₀ taken last it'

/-- A list of calls is a run. -/
lemma Run.calls {taken last : List EffectError} (h : it₀.Run taken last it)
    (calls : List (Call S C E O)) :
    it₀.Run (taken ++ (it.outcomes calls).flatMap Outcome.taken)
      (last ++ (it.outcomes calls).flatMap Outcome.last) (calls.foldl after it) := by
  induction calls generalizing it taken last with
  | nil => simpa [outcomes] using h
  | cons call calls ih =>
    have hrest := ih (h.call call)
    simpa [outcomes] using hrest

lemma Run.course {taken last : List EffectError} (h : it₀.Run taken last it) : it₀.Course it := by
  induction h with
  | begin => exact .refl
  | call h call ih => exact ih.trans (after_course _ call)
  | bootAmid h hstatus hamid ih => exact ih.tail (.bootAmid hstatus hamid)
  | turnAmid h hstatus hpop hamid ih => exact ih.tail (.turnAmid hstatus hpop hamid)
  | subscribeAmid h react hamid ih => exact ih.tail (.subscribeAmid react hamid)

/-- How the books stand in a run: they are kept until the stop, and then they are closed. -/
inductive Account (d : Definition S C E K O) (timed : Bool) (taken last : List EffectError)
    (it : Interpreter S C E K O) : Prop
  | kept (hlast : last = []) (honest : Honest d timed taken it)
  | closed (hstatus : it.status = .stopped)
      (hfailures : taken ++ it.warnings ++ last =
        (Onlooker.after d timed it.journal).failures)

/-- A call on an inert interpreter takes what is held, or it leaves it alone, and gives back nothing
else. -/
lemma Inert.handing (h : it.Inert) (call : Call S C E O) :
    (it.outcome call).taken ++ (it.after call).warnings = it.warnings ∧
      (it.outcome call).last = [] ∧ ∀ o ∈ (rebuff? call).toList, o.isTelling = false := by
  have hrebuffs := h.rebuffs
  cases call with
  | start budget =>
    rw [Interpreter.after, outcome, hrebuffs.start]
    exact ⟨rfl, rfl, by simp [rebuff?, isTelling]⟩
  | send budget event =>
    rw [Interpreter.after, outcome, hrebuffs.send]
    exact ⟨rfl, rfl, by simp [rebuff?, isTelling]⟩
  | processNext budget =>
    rw [Interpreter.after, outcome, hrebuffs.processNext]
    exact ⟨rfl, rfl, by simp [rebuff?]⟩
  | stop =>
    rw [Interpreter.after, outcome, hrebuffs.stop]
    exact ⟨rfl, rfl, by simp [rebuff?]⟩
  | post origin event =>
    rw [Interpreter.after, hrebuffs.post]
    exact ⟨rfl, rfl, by simp [rebuff?, isTelling]⟩
  | subscribe react =>
    rw [Interpreter.after, hrebuffs.subscribe]
    exact ⟨rfl, rfl, by simp [rebuff?]⟩
  | unsubscribe id => exact ⟨rfl, rfl, by simp [rebuff?]⟩
  | takeWarnings => exact ⟨List.append_nil _, rfl, by simp [rebuff?]⟩
  | advance time most =>
    rw [Interpreter.after, hrebuffs.advance]
    exact ⟨rfl, rfl, by simp [rebuff?]⟩

/-- A call on a machine that was not stopped keeps the books, and the stop closes them. -/
lemma Honest.after (h : Honest d timed handed it) (hstatus : it.status ≠ .stopped)
    (call : Call S C E O) :
    Account d timed (handed ++ (it.outcome call).taken) (it.outcome call).last
      (it.after call) := by
  have hkept (hnone : (it.outcome call).taken = [] ∧ (it.outcome call).last = [])
      (honest : Honest d timed handed (it.after call)) :
      Account d timed (handed ++ (it.outcome call).taken) (it.outcome call).last
        (it.after call) := by
    rw [hnone.1, hnone.2, List.append_nil]
    exact .kept rfl honest
  cases call with
  | start budget => exact hkept ⟨rfl, rfl⟩ (h.start budget)
  | send budget event => exact hkept ⟨rfl, rfl⟩ (h.send budget event)
  | processNext budget => exact hkept ⟨rfl, rfl⟩ (h.processNext budget)
  | stop =>
    have hlaw := h.stop hstatus
    rw [← List.append_nil handed] at hlaw
    exact .closed (inert_stop hstatus).status hlaw
  | post origin event => exact hkept ⟨rfl, rfl⟩ (h.spares (.enqueue it origin event))
  | subscribe react => exact hkept ⟨rfl, rfl⟩ (h.spares (.subscribe it react))
  | unsubscribe id =>
    exact hkept ⟨rfl, rfl⟩ (h.spares ((Spares.refl it).adjust rfl rfl rfl rfl rfl rfl))
  | takeWarnings => exact .kept rfl h.takeWarnings
  | advance time most => exact hkept ⟨rfl, rfl⟩ (h.spares (.advanceTo it time most))

variable {options : Options} {taken last : List EffectError}

/-- The books of every run are in order. -/
theorem Run.account (hfresh : Fresh d options it₀) (hrun : it₀.Run taken last it) :
    Account d it₀.timers taken last it := by
  induction hrun with
  | begin => exact .kept rfl hfresh.honest
  | @call taken last it h call ih =>
    have hinert := Course.inert hfresh h.course
    cases ih with
    | kept hlast honest =>
      have hstatus : it.status ≠ .stopped := by
        intro hstopped
        cases (hinert hstopped).accepting.symm.trans honest.accepting
      rw [hlast, List.nil_append]
      exact honest.after hstatus call
    | closed hstatus hfailures =>
      obtain ⟨hinert', -, hjournal⟩ := (hinert hstatus).after call
      obtain ⟨hheld, hlast, hwords⟩ := (hinert hstatus).handing call
      refine .closed hinert'.status ?_
      rw [hjournal, Onlooker.after_append, Onlooker.foldl_see_of_not_isTelling hwords, hlast,
        List.append_nil, List.append_assoc taken, hheld, hfailures]
  | bootAmid h hstatus hamid ih =>
    cases ih with
    | kept hlast honest => exact .kept hlast (honest.booted.meanwhile hamid)
    | closed hstopped => cases hstatus.symm.trans hstopped
  | turnAmid h hstatus hpop hamid ih =>
    cases ih with
    | kept hlast honest => exact .kept hlast ((honest.step hpop).meanwhile hamid)
    | closed hstopped => cases hstatus.symm.trans hstopped
  | subscribeAmid h react hamid ih =>
    cases ih with
    | kept hlast honest =>
      exact .kept hlast ((honest.spares (.subscribe _ react)).meanwhile hamid)
    | closed hstopped =>
      -- an inert interpreter tells nothing on a subscription, so nobody can send meanwhile
      obtain ⟨first, rest, -, -, hjournal, -⟩ := hamid.told
      rw [(Course.inert hfresh h.course hstopped).subscribe] at hjournal
      exact absurd hjournal.symm (by simp [journal])

/-! ## Errors of calls -/

/-- An error that is no failure of an effect: the caller granted too few events, or the machine does
not rest where it was left, as its definition says. -/
def Owed (d : Definition S C E K O) (options : Options) (error : InterpreterError)
    (it : Interpreter S C E K O) : Prop :=
  error = .budgetSpent ∨ d.rests it.snapshot = false ∧
    error = .nonTerminatingChain (Label.name it.state) options.maxEventlessSteps

omit [Kinded E K] [DecidableEq K] in
lemma owed_of_verdict (hdefinition : it.definition = d) (hoptions : it.options = options)
    {error : InterpreterError} (h : it.verdict it'.snapshot = .error error) :
    Owed d options error it' := by
  rw [verdict, hdefinition, hoptions] at h
  split at h
  · cases h
  · rename_i hrests
    exact .inr ⟨Bool.eq_false_iff.mpr hrests, (Except.error.inj h).symm⟩

lemma owed_of_drain (hfresh : Fresh d options it₀) (hcourse : it₀.Course it) {budget : Nat}
    {error : InterpreterError} (herror : (it.drain budget).2 = .error error) :
    Owed d options error (it.drain budget).1 := by
  have hspec := drain_spec it budget
  generalize it.drain budget = r at hspec herror ⊢
  induction hspec with
  | done hdone => cases herror
  | spent hstatus hwaiting => exact .inl (Except.error.inj herror).symm
  | next hstatus hpop hok hrest ih => exact ih (hcourse.tail (.turn hstatus hpop)) herror
  | @failed here budget envelope inbox error' hstatus hpop hfail =>
    obtain rfl := Except.error.inj herror
    have hsound := (Course.sound hfresh hcourse).1
    rcases step_idles_or_verdict here envelope inbox with ⟨hok, -⟩ | hverdict
    · cases hok.symm.trans hfail
    · exact owed_of_verdict hsound.definition hsound.options (hverdict.symm.trans hfail)

/-- No call ends with an error because an effect failed. -/
lemma owed_of_outcome (hfresh : Fresh d options it₀) (hcourse : it₀.Course it)
    {call : Call S C E O} {error : InterpreterError}
    (herror : (it.outcome call).error? = some error) : Owed d options error (it.after call) := by
  have hsound := (Course.sound hfresh hcourse).1
  cases call with
  | start budget =>
    cases hstatus : it.status with
    | running =>
      rw [outcome, start_of_running hstatus] at herror
      cases herror
    | stopped =>
      rw [outcome, start_of_stopped hstatus] at herror
      cases herror
    | notStarted =>
      cases hbooting : it.booting.2 with
      | ok u =>
        rw [outcome, start_of_ok hstatus hbooting] at herror
        rw [Interpreter.after, start_of_ok hstatus hbooting]
        cases hdrain : (it.booted.drain budget).2 with
        | ok u =>
          rw [hdrain] at herror
          cases herror
        | error first =>
          rw [hdrain] at herror
          obtain rfl := Option.some.inj herror
          exact owed_of_drain hfresh (hcourse.tail (.boot hstatus)) hdrain
      | error first =>
        rw [outcome, start_of_error hstatus hbooting] at herror
        rw [Interpreter.after, start_of_error hstatus hbooting]
        obtain rfl := Option.some.inj herror
        exact owed_of_verdict hsound.definition hsound.options
          ((booting_verdict it).symm.trans hbooting)
  | send budget event =>
    cases hstatus : it.status with
    | running =>
      rw [outcome, send_of_running hstatus] at herror
      rw [Interpreter.after, send_of_running hstatus]
      cases hdrain : ((it.enqueue .external event).drain budget).2 with
      | ok u =>
        rw [hdrain] at herror
        cases herror
      | error first =>
        rw [hdrain] at herror
        obtain rfl := Option.some.inj herror
        exact owed_of_drain hfresh (hcourse.tail (.post .external event)) hdrain
    | stopped =>
      simp only [outcome, Interpreter.send, hstatus] at herror
      cases herror
    | notStarted =>
      simp only [outcome, Interpreter.send, hstatus] at herror
      split at herror <;> cases herror
  | processNext budget =>
    by_cases hstatus : it.status = .running
    · by_cases hempty : it.inbox.queue.isEmpty = true
      · rw [outcome, processNext_of_waiting hstatus hempty] at herror
        cases herror
      · cases hdrain : (it.drain budget).2 with
        | ok u =>
          rw [outcome, processNext_of_ok hstatus hempty hdrain] at herror
          cases herror
        | error first =>
          rw [outcome, processNext_of_error hstatus hempty hdrain] at herror
          rw [Interpreter.after, processNext_of_error hstatus hempty hdrain]
          obtain rfl := Option.some.inj herror
          exact owed_of_drain hfresh hcourse hdrain
    · rw [outcome, processNext_of_not_running hstatus] at herror
      cases herror
  | _ => cases herror

/-- **Every failure of an effect is reported once.**  Take any run, in any order of calls and of what
others send.  The failures that factories gave back on entries, and those of the cleanups that ran
on exits and at the stop, in the name of their effects, are in their order: what was taken as
warnings, then what is held now, then what the first stop gave back; a later stop gives back
nothing.  No failure stands in the way of a transition, which leads where the definition says; and
none becomes the error of a call, which says that too few events were granted or that the machine
does not rest where it was left. -/
theorem failures_reported_once (hfresh : Fresh d options it₀) (hrun : it₀.Run taken last it) :
    taken ++ it.warnings ++ last = (Onlooker.after d it₀.timers it.journal).failures ∧
    (it.status = .stopped → it.stop = (it, [])) ∧
    (∀ t event, (it.take t event).snapshot = d.apply t event it.snapshot) ∧
    ∀ call error, (it.outcome call).error? = some error → Owed d options error (it.after call) := by
  have hcourse := hrun.course
  have hsound := (Course.sound hfresh hcourse).1
  refine ⟨?_, fun hstopped => (Course.inert hfresh hcourse hstopped).stop, ?_, ?_⟩
  · cases hrun.account hfresh with
    | kept hlast honest =>
      have hfailures := honest.failures
      rwa [Onlooker.failures_part honest.leaving, ← List.append_nil (taken ++ _), ← hlast]
        at hfailures
    | closed hstatus hfailures => exact hfailures
  · intro t event
    obtain ⟨work, htake⟩ := take_stretch hsound.proper t event
    rw [htake.snapshot, ← hsound.definition]
    rfl
  · intro call error herror
    exact owed_of_outcome hfresh hcourse herror

end Interpreter

namespace Lamp

open Interpreter

/-- A drum that beats without a pause, and so does not start. -/
def drum : Effect Nat Event Unit := interval "drum" (fun _ => 0) .beat

/-- A lamp that hisses while it is off, and whose drum cannot be started while it is on. -/
def balky : Definition State Nat Event Event Unit :=
  { lamp with
    nodes :=
      [(.off, { on := ⟨[(.press, [moving (some .on)])]⟩, effect := hiss }),
        (.on, { on := ⟨[(.press, [moving (some .off)])]⟩, effect := drum })] }

/-- It is pressed twice and stopped, and the warnings are taken in between. -/
def ordeal : List (Call State Nat Event Unit) :=
  [.start 1, .send 9 .press, .takeWarnings, .send 9 .press, .stop, .stop, .takeWarnings]

lemma balky_fresh : Interpreter.Fresh balky {} (Interpreter.new balky) := .new 0 true

end Lamp

open Lamp in
/-- The lamp is left with a hiss and entered without a drum, which is taken; at the stop it hisses
again. -/
theorem Interpreter.failures_reported_once_lamp :
    (Onlooker.after balky true (ordeal.foldl after (Interpreter.new balky)).journal).failures =
      [.cleanupFailed "hiss" "stuck",
        .startFailed "drum" "interval period must be non-zero",
        .cleanupFailed "hiss" "stuck"] := by
  obtain ⟨hfailures, -⟩ := failures_reported_once balky_fresh (Run.begin.calls ordeal)
  exact hfailures.symm

end Macrostep
