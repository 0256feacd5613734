/-
# Delivery in batches

Events can be brought to a machine in many ways.  They can be sent before the start, and are kept for
it; they can be sent to the running machine one call at a time; others can queue them, and one call
resolves them all; and these ways can be mixed.  If nobody but those who deliver sends anything, it
does not matter (`Interpreter.delivery_in_batches`): every delivery of the same events in the same
order comes to the same position, the same history apart from the times, the same active effect and
the same warnings, and the machine has done the same deeds on the way.

All deliveries are compared with the machine that answers one input after the other while nothing
waits (`Interpreter.answering`).  While an event of a batch is resolved, the rest of the batch may be
put aside (`Interpreter.cleared`), and then both answer in unison (`Interpreter.Serving`).
-/
import Macrostep.Proofs.EqualDeeds
import Macrostep.Proofs.HistoryRetention
import Macrostep.Proofs.InboxLedger
import Macrostep.Proofs.JournalOrder
import Macrostep.Proofs.NoQueueing
import Macrostep.Proofs.SilentEffects

namespace Macrostep

open Occurrence

open Leg (endOf)

/-! ## Answers that come to rest -/

namespace Definition

variable {S C E K O : Type} [DecidableEq S] [DecidableEq K] [Kinded E K]

/-- Whether the answers to a list of inputs come to rest, each of them after no more eventless steps
than the limit allows. -/
def settles (d : Definition S C E K O) (limit : Nat) : Snapshot S C → List (Option E) → Bool
  | _, [] => true
  | s, input :: inputs =>
    let last := endOf s (d.respond limit s input)
    d.rests last && d.settles limit last inputs

lemma settles_append (d : Definition S C E K O) (limit : Nat) (s : Snapshot S C)
    (inputs more : List (Option E)) :
    d.settles limit s (inputs ++ more) =
      (d.settles limit s inputs && d.settles limit (d.reached limit s inputs) more) := by
  induction inputs generalizing s with
  | nil => rfl
  | cons input inputs ih =>
    rw [List.cons_append, settles, settles, ih, Bool.and_assoc]
    rfl

end Definition

namespace Interpreter

variable {S C E K O : Type} {it it' : Interpreter S C E K O}

section

variable [DecidableEq S] [Label S] [DecidableEq K] [Kinded E K]

/-! ## One input after the other -/

/-- The answer to an input.  An event is taken as if it had waited alone. -/
def answering (it : Interpreter S C E K O) : Option E → Interpreter S C E K O
  | none => it.booted
  | some event => (it.receiving ⟨event, .external⟩ it.inbox).resolve ⟨event, .external⟩ |>.1

/-- The start comes to its end if the machine rests then. -/
lemma booting_of_rests (hproper : it.Proper)
    (hrests : it.definition.rests (endOf it.snapshot (it.answer none)) = true) :
    it.booting.2 = .ok () ∧ it.booted.snapshot = endOf it.snapshot (it.answer none) := by
  obtain ⟨work, shown, hboot⟩ := booting_spec hproper
  obtain ⟨-, -, -, hshows, -⟩ := emit_spec it.booting.1
  refine ⟨?_, hshows.snapshot.trans hboot.snapshot⟩
  rw [hboot.verdict, hboot.snapshot, verdict, if_pos hrests]

/-- An event from outside comes to its end if the machine rests then. -/
lemma resolve_of_rests (hproper : it.Proper) (event : E)
    (hrests : it.definition.rests (endOf it.snapshot (it.answer (some event))) = true) :
    (it.resolve ⟨event, .external⟩).2 = .ok () ∧
      (it.resolve ⟨event, .external⟩).1.snapshot = endOf it.snapshot (it.answer (some event)) := by
  obtain ⟨told, hresolving, -⟩ := resolve_spec hproper ⟨event, .external⟩
  generalize it.resolve ⟨event, .external⟩ = r at hresolving ⊢
  cases hresolving with
  | stale hstale => cases hstale
  | unhandled hfresh hnone =>
    rw [show it.answer (some event) = [] from hnone]
    exact ⟨rfl, rfl⟩
  | handled hfresh hlegs hsome hstretch hproper' hshown =>
    obtain ⟨-, -, -, hshows, -⟩ := emit_spec _
    rw [show it.answer (some event) = _ from hlegs, ← hstretch.snapshot] at hrests ⊢
    exact ⟨if_pos hrests, hshows.snapshot⟩

/-- Where an interpreter is in its life, by whether it was started. -/
def phase (started : Bool) : Status := if started then .running else .notStarted

variable {d : Definition S C E K O} {options : Options} {started : Bool} {event : E}
  {queued more : List E} {c : Interpreter S C E K O}

/-- `it` runs the machine `d`, or is still to be started, and the events `queued` wait in it.  The
interpreter `c` has given the same answers as `it`, and nothing waits in it. -/
structure Serving (d : Definition S C E K O) (options : Options) (started : Bool) (queued : List E)
    (it c : Interpreter S C E K O) : Prop where
  definition : it.definition = d
  options : it.options = options
  proper : it.Proper
  status : it.status = phase started
  waiting : it.inbox.waiting = queued.map fun event => ⟨event, .external⟩
  unison : Unison it.cleared c

namespace Serving

omit [Label S] [DecidableEq K] [Kinded E K] in
lemma quiet (h : Serving d options started queued it c) : it.Quiet := h.unison.quiet.elsewhere

omit [Label S] [DecidableEq K] [Kinded E K] in
lemma accepting (h : Serving d options started queued it c) : it.inbox.accepting = true :=
  h.unison.accepting

omit [Label S] in
/-- What is done without answering anything does not matter. -/
lemma idle (h : Serving d options started queued it c) (hidle : it.Idle it')
    (hwaiting : it'.inbox.waiting = more.map fun event => ⟨event, .external⟩) :
    Serving d options started more it' c := by
  obtain ⟨told, hbeside⟩ := hidle.beside
  have haccepting : it'.inbox.accepting = it.inbox.accepting := by
    rw [Inbox.accepting, Inbox.accepting, hbeside.reception]
  exact
    { definition := hbeside.definition.trans h.definition
      options := hbeside.options.trans h.options
      proper := (hbeside.follows h.proper).proper
      status := hbeside.status.trans h.status
      waiting := hwaiting
      unison :=
        { definition := h.unison.definition.trans hbeside.definition.symm
          options := h.unison.options.trans hbeside.options.symm
          status := h.unison.status.trans hbeside.status.symm
          snapshot := h.unison.snapshot.trans hbeside.snapshot.symm
          history := h.unison.history.trans (congrArg History.undated hidle.history.symm)
          waiting := h.unison.waiting
          told := ⟨[], (List.append_nil _).symm, (List.append_nil _).symm⟩
          quiet := hidle.quiet.elsewhere
          quiet' := h.unison.quiet'
          accepting := haccepting.trans h.accepting
          accepting' := h.unison.accepting'
          external := h.unison.external
          timers := h.unison.timers.trans hidle.timers.symm
          running := h.unison.running.trans hbeside.running.symm
          generation := h.unison.generation.trans hbeside.generation.symm
          warnings := h.unison.warnings.trans hidle.warnings.symm
          deeds := h.unison.deeds.trans (deeds_of_asides hbeside.toAdds hbeside.isAside).symm } }

omit [Label S] in
/-- An event comes. -/
lemma enqueue (h : Serving d options started queued it c) (event : E) :
    Serving d options started (queued ++ [event]) (it.enqueue .external event) c := by
  refine h.idle (.enqueue h.quiet .external event) ?_
  rw [enqueue_of_accepting h.accepting]
  refine (Inbox.waiting_push_of_accepting h.accepting _).trans ?_
  rw [h.waiting, List.map_append]
  rfl

/-- The start is answered. -/
lemma boot (htacit : d.Tacit) (h : Serving d options false queued it c)
    (hrests : d.rests (endOf it.snapshot (d.respond options.maxEventlessSteps it.snapshot none)) =
      true) :
    it.booting.2 = .ok () ∧
      it.booted.snapshot =
        endOf it.snapshot (d.respond options.maxEventlessSteps it.snapshot none) ∧
      Serving d options true queued it.booted (c.answering none) := by
  have hanswer : it.answer none = d.respond options.maxEventlessSteps it.snapshot none := by
    rw [answer, h.definition, h.options]
  rw [← hanswer] at hrests ⊢
  obtain ⟨hok, hsnapshot⟩ := booting_of_rests h.proper (by rwa [h.definition])
  obtain ⟨told, hfollows⟩ := (Move.boot h.status).follows h.proper
  -- nothing is queued, so what waits may be put aside
  have hreticent : Reticent it.cleared.inbox it.cleared.booted :=
    Reticent.booted ⟨h.unison.quiet, h.definition ▸ htacit, rfl⟩
  obtain ⟨hcleared, hwaiting⟩ := (booted_indifferent it).cleared (by rw [hreticent.same]; rfl)
  refine ⟨hok, hsnapshot, ?_⟩
  exact
    { definition := hfollows.definition.trans h.definition
      options := hfollows.options.trans h.options
      proper := hfollows.proper
      status := booted_status it
      waiting := hwaiting.trans h.waiting
      unison := by
        rw [hcleared]
        exact h.unison.booted }

/-- While the next event is answered, what waits behind it may be put aside, since nothing is
queued. -/
lemma step_cleared (htacit : d.Tacit) (h : Serving d options true (event :: queued) it c)
    {inbox : Inbox E} (hpop : it.inbox.pop? = some (⟨event, .external⟩, inbox)) :
    (it.step ⟨event, .external⟩ inbox).1.cleared = it.cleared.answering (some event) ∧
      (it.step ⟨event, .external⟩ inbox).1.inbox.waiting = inbox.waiting := by
  let popped : Interpreter S C E K O := { it with inbox }
  let receive (here : Interpreter S C E K O) :=
    (here.log (.taken ⟨event, .external⟩)).resolve ⟨event, .external⟩
  have hpopped : popped.cleared = it.cleared := by
    simp only [popped, Interpreter.cleared, amid, (Inbox.waiting_of_pop? hpop).2]
  have hreticent : Reticent it.cleared.inbox (receive popped.cleared).1 := by
    rw [hpopped]
    exact Reticent.resolve (Reticent.log ⟨h.unison.quiet, h.definition ▸ htacit, rfl⟩ _) _
  have hreceive : Impartial receive popped :=
    (resolve_impartial _ ⟨event, .external⟩).after (Indifferent.log popped _)
  obtain ⟨hcleared, hwaiting⟩ := hreceive.1.cleared (by rw [hreticent.same]; rfl)
  rw [hpopped] at hcleared
  exact ⟨hcleared, hwaiting⟩

/-- The next event is answered. -/
lemma turn (htacit : d.Tacit) (h : Serving d options true (event :: queued) it c)
    (hrests : d.rests
      (endOf it.snapshot (d.respond options.maxEventlessSteps it.snapshot (some event))) = true) :
    ∃ inbox, it.inbox.pop? = some (⟨event, .external⟩, inbox) ∧
      (it.step ⟨event, .external⟩ inbox).2 = .ok () ∧
      (it.step ⟨event, .external⟩ inbox).1.snapshot =
        endOf it.snapshot (d.respond options.maxEventlessSteps it.snapshot (some event)) ∧
      Serving d options true queued (it.step ⟨event, .external⟩ inbox).1
        (c.answering (some event)) := by
  have hanswer : it.answer (some event) =
      d.respond options.maxEventlessSteps it.snapshot (some event) := by
    rw [answer, h.definition, h.options]
  rw [← hanswer] at hrests ⊢
  obtain ⟨inbox, hpop, hbehind⟩ := pop?_of_waiting h.waiting
  have hready : (it.receiving ⟨event, .external⟩ inbox).Proper := h.proper
  obtain ⟨hok, hsnapshot⟩ := resolve_of_rests hready event (by rwa [← h.definition] at hrests)
  obtain ⟨told, hfollows⟩ := (Move.turn h.status hpop).follows h.proper
  obtain ⟨hcleared, hwaiting⟩ := h.step_cleared htacit hpop
  have htaken := Unison.lockstep.log h.unison (.taken ⟨event, .external⟩)
  refine ⟨inbox, hpop, hok, hsnapshot, ?_⟩
  exact
    { definition := hfollows.definition.trans h.definition
      options := hfollows.options.trans h.options
      proper := hfollows.proper
      status := (step_status it ⟨event, .external⟩ inbox).trans h.status
      waiting := hwaiting.trans hbehind
      unison := by
        have hexternal : (⟨event, .external⟩ : Envelope E).origin = .external := rfl
        obtain ⟨-, hanswered⟩ := Unison.lockstep.resolve htaken hexternal
        rw [hcleared]
        exact hanswered }

/-- Everything that waits is answered. -/
theorem drain (htacit : d.Tacit) (h : Serving d options true queued it c)
    (hsettles : d.settles options.maxEventlessSteps it.snapshot (queued.map some) = true)
    {budget : Nat} (hbudget : queued.length ≤ budget) :
    (it.drain budget).2 = .ok () ∧
      (it.drain budget).1.snapshot =
        d.reached options.maxEventlessSteps it.snapshot (queued.map some) ∧
      Serving d options true [] (it.drain budget).1 ((queued.map some).foldl answering c) := by
  induction queued generalizing it c budget with
  | nil =>
    rw [drain_of_done (.inr h.waiting)]
    exact ⟨rfl, rfl, h⟩
  | cons event queued ih =>
    cases budget with
    | zero => cases hbudget
    | succ budget =>
      obtain ⟨hrests, hsettles⟩ := Bool.and_eq_true_iff.mp hsettles
      obtain ⟨inbox, hpop, hok, hsnapshot, hserving⟩ := h.turn htacit hrests
      rw [← hsnapshot] at hsettles
      obtain ⟨hresult, hreached, hserved⟩ := ih hserving hsettles (Nat.le_of_succ_le_succ hbudget)
      rw [drain_succ_of_ok h.status hpop hok]
      refine ⟨hresult, ?_, hserved⟩
      rw [hreached, hsnapshot]
      rfl

end Serving

/-! ## Deliveries -/

/-- Whether a call did not come to its end. -/
def Outcome.failed : Outcome S C → Bool
  | .started (.error _) | .sent (.error _) | .processed (.failed _) => true
  | _ => false

/-- Calls that bring events to a machine, in this order, and leave none of them waiting.  `started`
says whether the machine was started before, and `waiting` how many other events wait in it. -/
inductive Delivery : (started : Bool) → (waiting : Nat) → List (Call S C E O) → List E → Prop
  /-- Everything is delivered. -/
  | done : Delivery true 0 [] []
  /-- Time passes. -/
  | pass {started waiting calls events} (time : Nat) (most : Option Nat)
      (hrest : Delivery started waiting calls events) :
      Delivery started waiting (.advance time most :: calls) events
  /-- An observer comes, who sends nothing. -/
  | subscribe {started waiting calls events} {react : Observer S C E O} (hmute : Mute react)
      (hrest : Delivery started waiting calls events) :
      Delivery started waiting (.subscribe react :: calls) events
  /-- An observer goes. -/
  | unsubscribe {started waiting calls events} (id : Nat)
      (hrest : Delivery started waiting calls events) :
      Delivery started waiting (.unsubscribe id :: calls) events
  /-- Someone queues an event. -/
  | post {started waiting calls event events}
      (hrest : Delivery started (waiting + 1) calls events) :
      Delivery started waiting (.post .external event :: calls) (event :: events)
  /-- An event is sent before the start. -/
  | defer {waiting calls event events} (budget : Nat)
      (hrest : Delivery false (waiting + 1) calls events) :
      Delivery false waiting (.send budget event :: calls) (event :: events)
  /-- The machine is started, and what waits is resolved. -/
  | start {waiting budget calls events} (hbudget : waiting ≤ budget)
      (hrest : Delivery true 0 calls events) :
      Delivery false waiting (.start budget :: calls) events
  /-- An event is sent to the running machine, and resolved behind what waits. -/
  | send {waiting budget calls event events} (hbudget : waiting < budget)
      (hrest : Delivery true 0 calls events) :
      Delivery true waiting (.send budget event :: calls) (event :: events)
  /-- What waits is resolved. -/
  | next {waiting budget calls events} (hsome : 0 < waiting) (hbudget : waiting ≤ budget)
      (hrest : Delivery true 0 calls events) :
      Delivery true waiting (.processNext budget :: calls) events

/-! The ways to bring a list of events, before others. -/

section

variable {calls : List (Call S C E O)} {events : List E}

omit [DecidableEq S] [Label S] [DecidableEq K] [Kinded E K]

/-- All are sent before the start. -/
lemma Delivery.early (waiting budget : Nat) (batch : List E)
    (h : Delivery true 0 calls events) :
    Delivery false waiting
      (batch.map (Call.send budget) ++ .start (waiting + batch.length) :: calls)
      (batch ++ events) := by
  induction batch generalizing waiting with
  | nil => exact .start le_rfl h
  | cons event batch ih =>
    have hrest := ih (waiting + 1)
    rw [Nat.add_assoc, Nat.add_comm 1] at hrest
    exact .defer budget hrest

/-- They are sent to the running machine one by one. -/
lemma Delivery.singly {budget : Nat} (hbudget : 0 < budget) (batch : List E)
    (h : Delivery true 0 calls events) :
    Delivery true 0 (batch.map (Call.send budget) ++ calls) (batch ++ events) := by
  induction batch with
  | nil => exact h
  | cons event batch ih => exact .send hbudget ih

/-- Others queue all of them, and they are resolved together. -/
lemma Delivery.together (waiting : Nat) (batch : List E) (hsome : 0 < waiting + batch.length)
    (h : Delivery true 0 calls events) :
    Delivery true waiting
      (batch.map (Call.post .external) ++ .processNext (waiting + batch.length) :: calls)
      (batch ++ events) := by
  induction batch generalizing waiting with
  | nil => exact .next hsome le_rfl h
  | cons event batch ih =>
    have hrest := ih (waiting + 1) (by omega)
    rw [Nat.add_assoc, Nat.add_comm 1] at hrest
    exact .post hrest

end

/-- The inputs that come with a list of events. -/
def agenda : (started : Bool) → List E → List (Option E)
  | true, events => events.map some
  | false, events => none :: events.map some

lemma agenda_append (started : Bool) (events more : List E) :
    agenda started (events ++ more) = agenda started events ++ agenda true more := by
  cases started <;> simp [agenda]

namespace Serving

variable {budget : Nat}

/-- An event that comes too early is kept. -/
theorem defer (hdefer : options.deferEvents = true) (h : Serving d options false queued it c)
    (budget : Nat) (event : E) :
    (it.outcome (.send budget event)).failed = false ∧
      (it.send budget event).1.snapshot = it.snapshot ∧
      Serving d options false (queued ++ [event]) (it.send budget event).1 c := by
  have hstatus : it.status = .notStarted := h.status
  have hsend : it.send budget event =
      ((it.log (.deferred event)).enqueue .external event, .ok ()) := by
    simp only [Interpreter.send, hstatus, h.options, hdefer, if_true]
  have hannounced := h.idle (.log h.quiet (o := .deferred event) rfl rfl) h.waiting
  rw [outcome, hsend]
  exact ⟨rfl, (Beside.enqueue (it.log (.deferred event)) .external event).snapshot,
    hannounced.enqueue event⟩

/-- The machine is started. -/
theorem start (htacit : d.Tacit) (h : Serving d options false queued it c)
    (hsettles : d.settles options.maxEventlessSteps it.snapshot (agenda false queued) = true)
    (hbudget : queued.length ≤ budget) :
    (it.outcome (.start budget)).failed = false ∧
      (it.start budget).1.snapshot =
        d.reached options.maxEventlessSteps it.snapshot (agenda false queued) ∧
      Serving d options true [] (it.start budget).1 ((agenda false queued).foldl answering c) := by
  obtain ⟨hrests, hsettles⟩ := Bool.and_eq_true_iff.mp hsettles
  obtain ⟨hok, hsnapshot, hbooted⟩ := h.boot htacit hrests
  rw [← hsnapshot] at hsettles
  obtain ⟨hresult, hreached, hserved⟩ := hbooted.drain htacit hsettles hbudget
  rw [outcome, start_of_ok h.status hok, hresult]
  refine ⟨rfl, ?_, hserved⟩
  rw [hreached, hsnapshot]
  rfl

/-- An event is sent to the running machine. -/
theorem send (htacit : d.Tacit) (h : Serving d options true queued it c)
    (hsettles : d.settles options.maxEventlessSteps it.snapshot
      (agenda true (queued ++ [event])) = true) (hbudget : queued.length < budget) :
    (it.outcome (.send budget event)).failed = false ∧
      (it.send budget event).1.snapshot =
        d.reached options.maxEventlessSteps it.snapshot (agenda true (queued ++ [event])) ∧
      Serving d options true [] (it.send budget event).1
        ((agenda true (queued ++ [event])).foldl answering c) := by
  have hsnapshot : (it.enqueue .external event).snapshot = it.snapshot :=
    (Beside.enqueue it .external event).snapshot
  have hlength : (queued ++ [event]).length ≤ budget := by
    rw [List.length_append]
    exact hbudget
  rw [← hsnapshot] at hsettles
  obtain ⟨hresult, hreached, hserved⟩ := (h.enqueue event).drain htacit hsettles hlength
  rw [outcome, send_of_running h.status, hresult]
  refine ⟨rfl, ?_, hserved⟩
  rw [hreached, hsnapshot]
  rfl

/-- What waits is resolved. -/
theorem next (htacit : d.Tacit) (h : Serving d options true queued it c) (hsome : queued ≠ [])
    (hsettles : d.settles options.maxEventlessSteps it.snapshot (agenda true queued) = true)
    (hbudget : queued.length ≤ budget) :
    (it.outcome (.processNext budget)).failed = false ∧
      (it.processNext budget).1.snapshot =
        d.reached options.maxEventlessSteps it.snapshot (agenda true queued) ∧
      Serving d options true [] (it.processNext budget).1
        ((agenda true queued).foldl answering c) := by
  obtain ⟨hresult, hreached, hserved⟩ := h.drain htacit hsettles hbudget
  have hnext : it.processNext budget =
      ((it.drain budget).1, .settled (it.drain budget).1.snapshot) := by
    have hrunning : it.status = .running := h.status
    have hdrain : it.drain budget = ((it.drain budget).1, .ok ()) := Prod.ext rfl hresult
    have hqueue : it.inbox.queue.isEmpty = false := by
      rw [← Bool.not_eq_true, Queue.isEmpty_iff]
      intro hempty
      have hnone := h.waiting.symm.trans hempty
      exact hsome (List.map_eq_nil_iff.mp hnone)
    rw [processNext, if_pos hrunning, hqueue, hdrain]
    rfl
  rw [outcome, hnext]
  exact ⟨rfl, hreached, hserved⟩

end Serving

/-- Calls have answered `inputs`. -/
structure Answered (d : Definition S C E K O) (options : Options) (calls : List (Call S C E O))
    (inputs : List (Option E)) (it c : Interpreter S C E K O) : Prop where
  fine : ∀ o ∈ it.outcomes calls, o.failed = false
  snapshot : (calls.foldl after it).snapshot =
    d.reached options.maxEventlessSteps it.snapshot inputs
  serving : Serving d options true [] (calls.foldl after it) (inputs.foldl answering c)

/-- A call answers the first inputs, and other calls answer the rest. -/
lemma Answered.cons {call : Call S C E O} {calls : List (Call S C E O)} {first rest : List (Option E)}
    (hfine : (it.outcome call).failed = false)
    (hreached : (it.after call).snapshot = d.reached options.maxEventlessSteps it.snapshot first)
    (hrest : Answered d options calls rest (it.after call) (first.foldl answering c)) :
    Answered d options (call :: calls) (first ++ rest) it c where
  fine := by
    rw [outcomes, List.forall_mem_cons]
    exact ⟨hfine, hrest.fine⟩
  snapshot := by
    rw [Definition.reached_append, ← hreached]
    exact hrest.snapshot
  serving := by
    rw [List.foldl_append]
    exact hrest.serving

/-- A call that answers nothing leaves everything to other calls. -/
lemma Answered.idle {call : Call S C E O} {calls : List (Call S C E O)} {inputs : List (Option E)}
    (hfine : (it.outcome call).failed = false) (hsnapshot : (it.after call).snapshot = it.snapshot)
    (hrest : Answered d options calls inputs (it.after call) c) :
    Answered d options (call :: calls) inputs it c :=
  show Answered d options (call :: calls) ([] ++ inputs) it c from .cons hfine hsnapshot hrest

/-- A delivery is served: every call comes to its end, and the events are answered in their order,
behind those that waited before. -/
theorem Delivery.answered (htacit : d.Tacit) (hdefer : options.deferEvents = true)
    {waiting : Nat} {calls : List (Call S C E O)} {events : List E}
    (hdelivery : Delivery started waiting calls events)
    (h : Serving d options started queued it c) (hwaiting : queued.length = waiting)
    (hsettles : d.settles options.maxEventlessSteps it.snapshot
      (agenda started (queued ++ events)) = true) :
    Answered d options calls (agenda started (queued ++ events)) it c := by
  induction hdelivery generalizing it c queued with
  | done =>
    obtain rfl := List.length_eq_zero_iff.mp hwaiting
    exact ⟨nofun, rfl, h⟩
  | pass time most hrest ih =>
    have hhushed : it.Hushed (it.after (.advance time most)) := .advanceTo h.quiet time most
    have hpassed := h.idle (.advanceTo h.quiet time most)
      ((congrArg Inbox.waiting hhushed.inbox).trans h.waiting)
    exact .idle rfl hhushed.snapshot (ih hpassed hwaiting (by rwa [hhushed.snapshot]))
  | @subscribe _ _ _ _ react hmute hrest ih =>
    have hhushed : it.Hushed (it.after (.subscribe react)) := .subscribe h.quiet hmute
    have hcome := h.idle (.subscribe h.quiet hmute)
      ((congrArg Inbox.waiting hhushed.inbox).trans h.waiting)
    exact .idle rfl hhushed.snapshot (ih hcome hwaiting (by rwa [hhushed.snapshot]))
  | unsubscribe id hrest ih =>
    exact .idle rfl rfl (ih (h.idle (.unsubscribe h.quiet id) h.waiting) hwaiting hsettles)
  | @post started waiting calls event events hrest ih =>
    have hsnapshot : (it.after (.post .external event)).snapshot = it.snapshot :=
      (Beside.enqueue it .external event).snapshot
    have hlength : (queued ++ [event]).length = waiting + 1 := by
      rw [List.length_append, hwaiting]
      rfl
    rw [List.append_cons] at hsettles ⊢
    exact .idle rfl hsnapshot (ih (h.enqueue event) hlength (by rwa [hsnapshot]))
  | @defer waiting calls event events budget hrest ih =>
    obtain ⟨hfine, hsnapshot, hserved⟩ := h.defer hdefer budget event
    have hlength : (queued ++ [event]).length = waiting + 1 := by
      rw [List.length_append, hwaiting]
      rfl
    rw [List.append_cons] at hsettles ⊢
    exact .idle hfine hsnapshot (ih hserved hlength (by rwa [after, hsnapshot]))
  | start hbudget hrest ih =>
    -- the start answers what waits, and nothing is left of it for the other calls
    rw [agenda_append, d.settles_append, Bool.and_eq_true_iff] at hsettles
    obtain ⟨hfine, hreached, hserved⟩ := h.start htacit hsettles.1 (hwaiting ▸ hbudget)
    rw [agenda_append]
    exact .cons hfine hreached (ih hserved rfl (by rw [hreached]; exact hsettles.2))
  | send hbudget hrest ih =>
    rw [List.append_cons, agenda_append, d.settles_append, Bool.and_eq_true_iff] at hsettles
    obtain ⟨hfine, hreached, hserved⟩ := h.send htacit hsettles.1 (hwaiting ▸ hbudget)
    rw [List.append_cons, agenda_append]
    exact .cons hfine hreached (ih hserved rfl (by rw [hreached]; exact hsettles.2))
  | next hsome hbudget hrest ih =>
    have hqueued : queued ≠ [] := by
      rintro rfl
      exact absurd hwaiting (Nat.ne_of_lt hsome)
    rw [agenda_append, d.settles_append, Bool.and_eq_true_iff] at hsettles
    obtain ⟨hfine, hreached, hserved⟩ := h.next htacit hqueued hsettles.1 (hwaiting ▸ hbudget)
    rw [agenda_append]
    exact .cons hfine hreached (ih hserved rfl (by rw [hreached]; exact hsettles.2))

/-! ## The ways of delivery -/

omit [Label S] [DecidableEq K] [Kinded E K] in
/-- Whoever has given the same answers has come to the same. -/
lemma Serving.accord (h : Serving d options started queued it c)
    (h' : Serving d options started more it' c) : it.Accord it' where
  snapshot := h'.unison.snapshot.symm.trans h.unison.snapshot
  history := h'.unison.history.symm.trans h.unison.history
  running := h'.unison.running.symm.trans h.unison.running
  generation := h'.unison.generation.symm.trans h.unison.generation
  warnings := h'.unison.warnings.symm.trans h.unison.warnings
  deeds := h'.unison.deeds.symm.trans h.unison.deeds

variable {it₀ : Interpreter S C E K O}

/-- A new interpreter has given no answer yet. -/
lemma Fresh.serving (hfresh : Fresh d options it₀) (hsilent : d.Silent) :
    Serving d options false [] it₀ it₀ := by
  have hblank := hfresh.blank
  obtain ⟨now, timers, hplaced⟩ := hfresh.exists_placed
  have hquiet : it₀.Quiet := by
    refine Course.quiet hsilent hfresh .refl ?_
    rw [hplaced]
    exact nofun
  have hcleared : it₀.cleared = it₀ := by
    rw [hplaced]
    rfl
  have haccepting : it₀.inbox.accepting = true := by
    rw [hblank.inbox]
    rfl
  have hexternal : ∀ envelope ∈ it₀.inbox.waiting, envelope.origin = .external := by
    rw [hblank.inbox]
    exact nofun
  exact
    { definition := hblank.definition
      options := hblank.options
      proper := hblank.proper
      status := hblank.status
      waiting := congrArg Inbox.waiting hblank.inbox
      unison := by
        rw [hcleared]
        exact
          { definition := rfl, options := rfl, status := rfl, snapshot := rfl, history := rfl
            waiting := rfl, told := ⟨[], (List.append_nil _).symm, (List.append_nil _).symm⟩
            quiet := hquiet, quiet' := hquiet, accepting := haccepting, accepting' := haccepting
            external := hexternal, timers := rfl, running := rfl, generation := rfl
            warnings := rfl, deeds := rfl } }

/-- **Delivery in batches does not matter.**  Let nobody send but those who bring `events`: the
effects of the machine are silent, its actions are tacit and the observers that come are mute; let
early events be kept, and let the answers come to rest within the limit.  The events may all be sent
before the start, be sent one by one to the running machine, be queued by others and resolved by one
call, or be brought by any mixture of these in order, while time passes and observers come and go.
Then every call comes to its end, all events are answered, and any two deliveries come to the same
position, the same history apart from the times, the same active effect under the same number and
the same warnings; and both machines have published, started and cleaned up the same in the same
order. -/
theorem delivery_in_batches (hsilent : d.Silent) (htacit : d.Tacit) (hfresh : Fresh d options it₀)
    (hdefer : options.deferEvents = true) {events : List E} (hsome : events ≠ [])
    (hsettles : d.settles options.maxEventlessSteps it₀.snapshot (none :: events.map some) = true)
    (budget : Nat) :
    let early : List (Call S C E O) := events.map (.send budget) ++ [.start events.length]
    let singly : List (Call S C E O) := .start 0 :: events.map (.send (budget + 1))
    let together : List (Call S C E O) :=
      .start 0 :: (events.map (.post .external) ++ [.processNext events.length])
    (Delivery false 0 early events ∧ Delivery false 0 singly events ∧
        Delivery false 0 together events) ∧
      ∀ calls calls' : List (Call S C E O),
        Delivery false 0 calls events → Delivery false 0 calls' events →
        let it := calls.foldl after it₀
        let it' := calls'.foldl after it₀
        (∀ o ∈ it₀.outcomes calls, o.failed = false) ∧
          it.status = .running ∧ it.inbox.waiting = [] ∧
          it.snapshot = d.reached options.maxEventlessSteps it₀.snapshot (none :: events.map some) ∧
          it.Accord it' := by
  intro early singly together
  have hdone : Delivery true 0 ([] : List (Call S C E O)) [] := .done
  refine ⟨⟨?_, ?_, ?_⟩, fun calls calls' hdelivery hdelivery' => ?_⟩
  · have hearly := hdone.early 0 budget events
    rwa [Nat.zero_add, List.append_nil] at hearly
  · have hsingly := hdone.singly (Nat.succ_pos budget) events
    rw [List.append_nil, List.append_nil] at hsingly
    exact .start le_rfl hsingly
  · have hwaiting : 0 < 0 + events.length := by
      rw [Nat.zero_add]
      exact List.length_pos_iff.mpr hsome
    have htogether := hdone.together 0 events hwaiting
    rw [Nat.zero_add, List.append_nil] at htogether
    exact .start le_rfl htogether
  · -- both have given the answers of the machine in which nothing ever waits
    have hbegin := hfresh.serving hsilent
    have hserved := hdelivery.answered htacit hdefer hbegin rfl hsettles
    have hserved' := hdelivery'.answered htacit hdefer hbegin rfl hsettles
    exact ⟨hserved.fine, hserved.serving.status, hserved.serving.waiting, hserved.snapshot,
      hserved.serving.accord hserved'.serving⟩

end

end Interpreter

namespace Lamp

open Interpreter

/-- The transition to a state, which counts and does nothing else. -/
def silently (target : State) : Transition State Int64 Event Unit where
  guard := none
  actions := [.assign fun count _ => count + 1]
  target := some target

/-- A lamp that crackles in every state and queues nothing. -/
def bulb : Definition State Int64 Event Event Unit where
  id := "bulb"
  initial := .off
  context := 0
  nodes :=
    [(.off, { on := ⟨[(.press, [silently .warm])]⟩, effect := crackle }),
      (.warm, { always := [silently .on], effect := crackle }),
      (.on, { on := ⟨[(.press, [silently .off])]⟩, effect := crackle })]
  shared := {}

lemma bulb_silent : bulb.Silent := by
  intro state effect heffect
  cases state <;>
    · obtain rfl := Option.some.inj heffect
      exact crackle_silent

lemma silently_tacit (target : State) : (silently target).Tacit := by
  intro run hrun
  cases List.mem_singleton.mp hrun

lemma bulb_tacit : bulb.Tacit where
  select {state _ event _} hselect := by
    cases state <;> cases event <;>
      first
        | exact Option.some.inj hselect ▸ silently_tacit _
        | cases hselect
  selectEventless {state _ _} hselect := by
    cases state <;>
      first
        | exact Option.some.inj hselect ▸ silently_tacit _
        | cases hselect

end Lamp

open Lamp in
/-- The bulb is pressed twice, before the start or in one batch after it: it is off again, the effect
of that state runs under the fourth number, and two starts and a cleanup have failed. -/
theorem Interpreter.delivery_in_batches_lamp :
    let early : List (Call State Int64 Event Unit) := [.send 9 .press, .send 9 .press, .start 2]
    let together : List (Call State Int64 Event Unit) :=
      [.start 0, .post .external .press, .post .external .press, .processNext 2]
    let it := early.foldl after (Interpreter.new bulb)
    let it' := together.foldl after (Interpreter.new bulb)
    it.Accord it' ∧ it'.snapshot = ⟨.off, 3, false⟩ ∧ it'.generation = 4 ∧
      it'.journal.filterMap emitted? = it.journal.filterMap emitted? := by
  have hfresh : Fresh bulb {} (Interpreter.new bulb) := .new 0 true
  have hsettles : bulb.settles 100 bulb.start (none :: [Event.press, .press].map some) = true := rfl
  obtain ⟨⟨hearly, -, htogether⟩, hall⟩ := delivery_in_batches bulb_silent bulb_tacit hfresh rfl
    (List.cons_ne_nil _ _) hsettles 9
  obtain ⟨-, -, -, hsnapshot, haccord⟩ := hall _ _ hearly htogether
  exact ⟨haccord, haccord.snapshot.trans (hsnapshot.trans rfl), rfl,
    haccord.reading fun _ => emitted?_of_isAside⟩

end Macrostep
