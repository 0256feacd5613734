/-
# Silent effects are invisible

Two machines differ in the effects that their states invoke, and none of these effects ever sends an
event.  They may fail to start, fail in their cleanup, take notes or be missing.  Whoever asks
interpreters of both the same cannot tell them apart (`Interpreter.silent_effects_invisible`): the
replies, the positions, the histories apart from the times, and what is published to whom are the
same.  What may differ is told of effects alone: which of them ran under which number, and how they
failed.

An effect starts and stops behind the stage, and two interpreters that differ there alone are twins
(`Interpreter.Twins`).  Twins go in lockstep, and they serve every request alike.
-/
import Mathlib.Data.List.Forall2
import Macrostep.Proofs.Resumption

namespace Macrostep

open Occurrence

namespace Interpreter

variable {S C E K O : Type} {it it' it₁ it₁' : Interpreter S C E K O} {mark : O → Bool}

/-! ## Twins -/

/-- Two interpreters do not differ but in their effects, in the times and in what is told of
effects, which are known by a mark on their notes. -/
structure Akin (mark : O → Bool) (it it' : Interpreter S C E K O) : Prop where
  machine : it'.definition.bare = it.definition.bare
  options : it'.options = it.options
  status : it'.status = it.status
  snapshot : it'.snapshot = it.snapshot
  history : it'.history.undated = it.history.undated
  nextSubscription : it'.nextSubscription = it.nextSubscription
  subscribers : it'.subscribers = it.subscribers
  watched : it'.watched = it.watched
  inbox : it'.inbox = it.inbox
  onstage : it'.onstage mark = it.onstage mark

variable [DecidableEq S]

/-- Two interpreters are akin and will go on to be so: their effects are tame, and no event waits
that an effect has sent. -/
structure Twins (mark : O → Bool) (it it' : Interpreter S C E K O) : Prop
    extends Akin mark it it' where
  tame : it.Tame mark
  tame' : it'.Tame mark
  external : ∀ envelope ∈ it.inbox.waiting, envelope.origin = .external

/-- Whoever tells that a cleanup has failed does so behind the stage. -/
lemma Backstage.warned (h : it.Tame mark) (failure : Option EffectError) :
    it.Backstage mark
      (match failure with
        | some error => it.log (.cleanupFailed error)
        | none => it) := by
  cases failure with
  | none => exact refl h
  | some error => exact log h rfl

namespace Twins

/-- What happens behind the stage of either of them does not matter. -/
lemma backstage (h : Twins mark it it') (h₁ : it.Backstage mark it₁)
    (h₁' : it'.Backstage mark it₁') : Twins mark it₁ it₁' where
  machine := by rw [h₁.definition, h₁'.definition, h.machine]
  options := by rw [h₁.options, h₁'.options, h.options]
  status := by rw [h₁.status, h₁'.status, h.status]
  snapshot := by rw [h₁.snapshot, h₁'.snapshot, h.snapshot]
  history := by rw [h₁.history, h₁'.history, h.history]
  nextSubscription := by rw [h₁.nextSubscription, h₁'.nextSubscription, h.nextSubscription]
  subscribers := by rw [h₁.subscribers, h₁'.subscribers, h.subscribers]
  watched := by rw [h₁.watched, h₁'.watched, h.watched]
  inbox := by rw [h₁.inbox, h₁'.inbox, h.inbox]
  onstage := by rw [h₁.onstage, h₁'.onstage, h.onstage]
  tame := h₁.tame
  tame' := h₁'.tame
  external := h₁.inbox ▸ h.external

/-! ### Small steps of both -/

/-- The same is written down in both. -/
lemma log (h : Twins mark it it') {o o' : Occurrence S C E O} (ho : o' = o) :
    Twins mark (it.log o) (it'.log o') where
  toAkin := { h.toAkin with
    onstage := by
      rw [onstage_log, onstage_log, h.onstage, ho] }
  tame := h.tame.elsewhere rfl rfl
  tame' := h.tame'.elsewhere rfl rfl
  external := h.external

/-- The same waits in both, which no effect has sent. -/
lemma queued (h : Twins mark it it') {inbox inbox' : Inbox E} (hinbox : inbox' = inbox)
    (hexternal : ∀ envelope ∈ inbox.waiting, envelope.origin = .external) :
    Twins mark { it with inbox } { it' with inbox := inbox' } where
  toAkin := { h.toAkin with inbox := hinbox }
  tame := h.tame.elsewhere rfl rfl
  tame' := h.tame'.elsewhere rfl rfl
  external := hexternal

/-- Both get into the same position. -/
lemma moved (h : Twins mark it it') (s : Snapshot S C) :
    Twins mark { it with snapshot := s } { it' with snapshot := s } where
  toAkin := { h.toAkin with snapshot := rfl }
  tame := h.tame.elsewhere rfl rfl
  tame' := h.tame'.elsewhere rfl rfl
  external := h.external

/-- Both get into the same part of their lives. -/
lemma turned (h : Twins mark it it') (status : Status) :
    Twins mark { it with status } { it' with status } where
  toAkin := { h.toAkin with status := rfl }
  tame := h.tame.elsewhere rfl rfl
  tame' := h.tame'.elsewhere rfl rfl
  external := h.external

/-- Both let the same be watched. -/
lemma replaced (h : Twins mark it it') {watched watched' : Watched S C}
    (hwatched : watched' = watched) :
    Twins mark { it with watched } { it' with watched := watched' } where
  toAkin := { h.toAkin with watched := hwatched }
  tame := h.tame.elsewhere rfl rfl
  tame' := h.tame'.elsewhere rfl rfl
  external := h.external

/-- Both have the same observers. -/
lemma attended (h : Twins mark it it') {subscribers subscribers' : List (Subscriber S C E O)}
    (hsubscribers : subscribers' = subscribers) :
    Twins mark { it with subscribers } { it' with subscribers := subscribers' } where
  toAkin := { h.toAkin with subscribers := hsubscribers }
  tame := h.tame.elsewhere rfl rfl
  tame' := h.tame'.elsewhere rfl rfl
  external := h.external

/-- Both give the same number to the next observer. -/
lemma counted (h : Twins mark it it') {next next' : Nat} (hnext : next' = next) :
    Twins mark { it with nextSubscription := next } { it' with nextSubscription := next' } where
  toAkin := { h.toAkin with nextSubscription := hnext }
  tame := h.tame.elsewhere rfl rfl
  tame' := h.tame'.elsewhere rfl rfl
  external := h.external

/-- Both enter a state, each at its own time. -/
lemma enter [Kinded E K] (h : Twins mark it it') (target : S) (event : Option E) :
    Twins mark (it.enter target event) (it'.enter target event) := by
  have hstate : it'.state = it.state := congrArg Snapshot.state h.snapshot
  -- the entries differ in their times alone
  have hlog := h.log (o := .transitioned it.state target event) rfl
  rw [enter_eq, enter_eq, hstate]
  exact
    { hlog with
      history := by
        dsimp only
        rw [h.options]
        split
        · exact History.undated_push h.history (by simp only [Entry.undated]) _
        · exact h.history
      tame := h.tame.elsewhere rfl rfl
      tame' := h.tame'.elsewhere rfl rfl }

/-- The same event is queued in both, or refused by both. -/
lemma enqueue (h : Twins mark it it') (event : E) :
    Twins mark (it.enqueue .external event) (it'.enqueue .external event) := by
  cases haccepting : it.inbox.accepting with
  | true =>
    have haccepting' : it'.inbox.accepting = true := h.inbox ▸ haccepting
    have hexternal : ∀ envelope ∈ (it.inbox.push ⟨event, .external⟩).waiting,
        envelope.origin = .external := by
      rw [Inbox.waiting_push_of_accepting haccepting, List.forall_mem_append]
      exact ⟨h.external, by simp⟩
    rw [enqueue_of_accepting haccepting, enqueue_of_accepting haccepting']
    exact (h.queued (by rw [h.inbox]) hexternal).log rfl
  | false =>
    have haccepting' : it'.inbox.accepting = false := h.inbox ▸ haccepting
    rw [enqueue_of_not_accepting haccepting, enqueue_of_not_accepting haccepting']
    exact h.log rfl

lemma receptive :
    Receptive (Twins mark : Interpreter S C E K O → Interpreter S C E K O → Prop) where
  log _ _ h _ := h.log rfl
  enqueue _ _ := enqueue

/-- Both show the position to the same observer, who does the same. -/
lemma showTo (h : Twins mark it it') (subscriber : Subscriber S C E O) :
    Twins mark (it.showTo subscriber) (it'.showTo subscriber) := by
  rw [Interpreter.showTo, Interpreter.showTo, h.snapshot]
  exact receptive.performAll (h.log rfl) _

/-- Both publish the position in which they are. -/
lemma emit (h : Twins mark it it') : Twins mark it.emit it'.emit := by
  -- both have the same observers, who have seen the same and answer alike
  have hshown (subscribers : List (Subscriber S C E O)) :
      ∀ {here here' : Interpreter S C E K O}, Twins mark here here' →
        Twins mark (subscribers.foldl Interpreter.showTo here)
          (subscribers.foldl Interpreter.showTo here') := by
    induction subscribers with
    | nil => exact fun htwins => htwins
    | cons subscriber subscribers ih => exact fun htwins => ih (htwins.showTo subscriber)
  have hwatched : (⟨it'.snapshot, it'.watched.version + 1⟩ : Watched S C) =
      ⟨it.snapshot, it.watched.version + 1⟩ := by rw [h.snapshot, h.watched]
  have haired : Twins mark it.aired it'.aired := (h.replaced hwatched).log (by rw [h.snapshot])
  have hall : Twins mark (it.subscribers.foldl Interpreter.showTo it.aired)
      (it'.subscribers.foldl Interpreter.showTo it'.aired) := by
    rw [h.subscribers]
    exact hshown _ haired
  exact hall.attended
    (congrArg₂ (fun l s => l.map fun o => { o with seen := s :: o.seen }) h.subscribers h.snapshot)

/-- The next event is taken in both. -/
lemma taken (h : Twins mark it it') {envelope : Envelope E} {inbox inbox' : Inbox E}
    (hpop : it.inbox.pop? = some (envelope, inbox))
    (hpop' : it'.inbox.pop? = some (envelope, inbox')) :
    Twins mark { it with inbox } { it' with inbox := inbox' } := by
  have hexternal := h.external
  rw [h.inbox, hpop] at hpop'
  obtain ⟨-, rfl⟩ := Prod.mk.inj (Option.some.inj hpop')
  rw [(Inbox.waiting_of_pop? hpop).1, List.forall_mem_cons] at hexternal
  exact h.queued rfl hexternal.2

/-- Whatever is done to both, they are twins: what their effects do is not heard of. -/
theorem lockstep [Kinded E K] :
    Lockstep (Twins mark : Interpreter S C E K O → Interpreter S C E K O → Prop) where
  toReceptive := receptive
  abreast _ _ h :=
    { machine := h.machine
      options := h.options
      status := h.status
      snapshot := h.snapshot
      waiting := congrArg Inbox.waiting h.inbox
      accepting := congrArg Inbox.accepting h.inbox
      external := h.external }
  taken _ _ := taken
  moved _ _ := moved
  enter _ _ := enter
  leave _ _ h := h.backstage (.leave h.tame) (.leave h.tame')
  launch _ _ h := h.backstage (.launch h.tame) (.launch h.tame')
  emit _ _ := emit

/-! ### Calls -/

/-- Time passes for both, and it need not be the same. -/
lemma advanceTo (h : Twins mark it it') (time time' : Nat) :
    Twins mark (it.advanceTo time) (it'.advanceTo time') :=
  h.backstage (.advanceTo h.tame time none) (.advanceTo h.tame' time' none)

/-- An observer comes to both. -/
lemma subscribe (h : Twins mark it it') (react : Observer S C E O) :
    (it'.subscribe react).2 = (it.subscribe react).2 ∧
      Twins mark (it.subscribe react).1 (it'.subscribe react).1 := by
  refine ⟨by rw [subscribe_snd, subscribe_snd, h.nextSubscription], ?_⟩
  by_cases hstatus : it.status = .running
  · have hgreeted : Twins mark (it.greeting react) (it'.greeting react) := by
      unfold greeting
      rw [h.nextSubscription]
      exact (h.counted rfl).showTo _
    rw [subscribe_eq_of_running hstatus, subscribe_eq_of_running (h.status.trans hstatus)]
    exact hgreeted.attended (by rw [hgreeted.subscribers, h.nextSubscription, h.snapshot])
  · rw [subscribe_of_not_running hstatus, subscribe_of_not_running (h.status ▸ hstatus)]
    have hnext : it'.nextSubscription + 1 = it.nextSubscription + 1 := by rw [h.nextSubscription]
    exact (h.counted hnext).attended (by rw [h.status, h.subscribers, h.nextSubscription])

/-- An observer leaves both. -/
lemma unsubscribe (h : Twins mark it it') (id : Nat) :
    (it'.unsubscribe id).2 = (it.unsubscribe id).2 ∧
      Twins mark (it.unsubscribe id).1 (it'.unsubscribe id).1 := by
  rw [Interpreter.unsubscribe, Interpreter.unsubscribe, h.subscribers]
  exact ⟨rfl, h.attended rfl⟩

/-- Both are stopped.  How the cleanups of their effects fail may differ. -/
lemma stop (h : Twins mark it it') : Twins mark it.stop.1 it'.stop.1 := by
  by_cases hstatus : it.status = .stopped
  · rw [stop_of_stopped hstatus, stop_of_stopped (h.status.trans hstatus)]
    exact h
  · -- one effect may be active where the other has none, and one cleanup fail where the other ends
    -- well, but all of it happens behind the stage
    have hshut : Twins mark it.shut it'.shut :=
      ((h.turned .stopped).attended rfl).queued rfl (by simp [Inbox.waiting])
    have hreleased := hshut.backstage (.release hshut.tame) (.release hshut.tame')
    have hended := hreleased.backstage (.warned hreleased.tame it.shut.release.2)
      (.warned hreleased.tame' it'.shut.release.2)
    rw [stop_of_not_stopped hstatus, stop_of_not_stopped (h.status ▸ hstatus)]
    exact hended.log (by rw [state, state, hreleased.snapshot])

section

variable [Label S] [DecidableEq K] [Kinded E K]

/-- Both are started. -/
theorem start (h : Twins mark it it') (budget : Nat) :
    (it'.start budget).2 = (it.start budget).2 ∧
      Twins mark (it.start budget).1 (it'.start budget).1 := by
  cases hstatus : it.status with
  | running =>
    rw [Interpreter.start, Interpreter.start, h.status, hstatus, h.snapshot]
    exact ⟨rfl, h⟩
  | stopped =>
    rw [Interpreter.start, Interpreter.start, h.status, hstatus, h.snapshot]
    exact ⟨rfl, h.log rfl⟩
  | notStarted =>
    have hstatus' : it'.status = .notStarted := h.status.trans hstatus
    have hstarted : (.started it'.state : Occurrence S C E O) = .started it.state := by
      rw [state, state, h.snapshot]
    obtain ⟨hresult, hbooting⟩ : it'.booting.2 = it.booting.2 ∧
        Twins mark it.booting.1 it'.booting.1 :=
      lockstep.settle (lockstep.launch ((h.turned .running).log hstarted))
    cases hend : it.booting.2 with
    | ok u =>
      obtain ⟨hdrained, htwins⟩ := lockstep.drain hbooting.emit budget
      rw [start_of_ok hstatus hend, start_of_ok hstatus' (hresult.trans hend)]
      dsimp only [booted]
      rw [hdrained, htwins.snapshot]
      exact ⟨rfl, htwins⟩
    | error error =>
      rw [start_of_error hstatus hend, start_of_error hstatus' (hresult.trans hend)]
      exact ⟨rfl, hbooting.emit⟩

/-- Both resolve the next event and everything behind it. -/
theorem processNext (h : Twins mark it it') (budget : Nat) :
    (it'.processNext budget).2 = (it.processNext budget).2 ∧
      Twins mark (it.processNext budget).1 (it'.processNext budget).1 := by
  obtain ⟨hresult, hdrained⟩ := lockstep.drain h budget
  unfold Interpreter.processNext
  rw [h.status, h.inbox]
  split
  · split
    · exact ⟨rfl, h⟩
    · generalize it.drain budget = r at hresult hdrained
      generalize it'.drain budget = r' at hresult hdrained
      obtain ⟨last, result⟩ := r
      obtain ⟨last', result'⟩ := r'
      obtain rfl : result' = result := hresult
      cases result' with
      | ok u => exact ⟨congrArg Next.settled hdrained.snapshot, hdrained⟩
      | error error => exact ⟨rfl, hdrained⟩
  · exact ⟨rfl, h⟩

omit [Label S] in
/-- Both would accept the same events. -/
lemma can (h : Twins mark it it') (event : E) : it'.can event = it.can event := by
  rw [Interpreter.can, Interpreter.can, h.status, Definition.accepts, Definition.accepts,
    Definition.select_of_bare_eq h.machine, h.snapshot]

end

end Twins

/-! ## Requests -/

/-- What is asked of an interpreter from outside. -/
inductive Request (S C E O : Type)
  | start (budget : Nat)
  | send (budget : Nat) (event : E)
  | post (event : E)
  | processNext (budget : Nat)
  | subscribe (react : Observer S C E O)
  | unsubscribe (id : Nat)
  | can (event : E)
  | checkpoint (id : String)
  | stop

/-- What an interpreter replies to a request. -/
inductive Reply (S C : Type)
  | started (result : Except InterpreterError (Snapshot S C))
  | sent (result : Except InterpreterError Unit)
  | posted (accepted : Bool)
  | processed (next : Next S C)
  | subscribed (id : Nat)
  | unsubscribed (present : Bool)
  | able (answer : Bool)
  | put (cp : Checkpoint S C)
  | stopped (failures : List EffectError)

/-- Two replies do not differ but in the times of a checkpoint, and in how the cleanup of an effect
failed at the stop. -/
inductive Reply.Alike {S C : Type} : Reply S C → Reply S C → Prop
  | same {reply reply' : Reply S C} (h : reply' = reply) : Alike reply reply'
  | redated {cp cp' : Checkpoint S C}
      (hcp : cp' = { cp with timestamp := cp'.timestamp, history := cp'.history })
      (hhistory : cp'.history.undated = cp.history.undated) : Alike (.put cp) (.put cp')
  | failures (failures failures' : List EffectError) :
    Alike (.stopped failures) (.stopped failures')

section

variable [Label S] [DecidableEq K] [Kinded E K]

/-- Serves a request. -/
def serve (it : Interpreter S C E K O) : Request S C E O → Interpreter S C E K O × Reply S C
  | .start budget => ((it.start budget).1, .started (it.start budget).2)
  | .send budget event => ((it.send budget event).1, .sent (it.send budget event).2)
  | .post event => (it.enqueue .external event, .posted it.inbox.accepting)
  | .processNext budget => ((it.processNext budget).1, .processed (it.processNext budget).2)
  | .subscribe react => ((it.subscribe react).1, .subscribed (it.subscribe react).2)
  | .unsubscribe id => ((it.unsubscribe id).1, .unsubscribed (it.unsubscribe id).2)
  | .can event => (it, .able (it.can event))
  | .checkpoint id => (it, .put (it.checkpoint id))
  | .stop => (it.stop.1, .stopped it.stop.2)

/-- Serves requests one after the other, each at its time. -/
def serveAll : Interpreter S C E K O → List (Nat × Request S C E O) →
    Interpreter S C E K O × List (Reply S C)
  | it, [] => (it, [])
  | it, (time, request) :: rest =>
    let (it, reply) := (it.advanceTo time).serve request
    let (it, replies) := it.serveAll rest
    (it, reply :: replies)

/-- Twins serve every request alike, and are twins afterwards. -/
theorem Twins.serve (h : Twins mark it it') (request : Request S C E O) :
    (it.serve request).2.Alike (it'.serve request).2 ∧
      Twins mark (it.serve request).1 (it'.serve request).1 := by
  cases request with
  | start budget =>
    obtain ⟨hresult, htwins⟩ := h.start budget
    exact ⟨.same (congrArg Reply.started hresult), htwins⟩
  | send budget event =>
    obtain ⟨hresult, htwins⟩ := lockstep.send h budget event
    exact ⟨.same (congrArg Reply.sent hresult), htwins⟩
  | post event =>
    have haccepting : it'.inbox.accepting = it.inbox.accepting := by rw [h.inbox]
    exact ⟨.same (congrArg Reply.posted haccepting), h.enqueue event⟩
  | processNext budget =>
    obtain ⟨hresult, htwins⟩ := h.processNext budget
    exact ⟨.same (congrArg Reply.processed hresult), htwins⟩
  | subscribe react =>
    obtain ⟨hresult, htwins⟩ := h.subscribe react
    exact ⟨.same (congrArg Reply.subscribed hresult), htwins⟩
  | unsubscribe id =>
    obtain ⟨hresult, htwins⟩ := h.unsubscribe id
    exact ⟨.same (congrArg Reply.unsubscribed hresult), htwins⟩
  | can event => exact ⟨.same (congrArg Reply.able (h.can event)), h⟩
  | checkpoint id =>
    refine ⟨.redated ?_ h.history, h⟩
    rw [checkpoint, checkpoint, h.snapshot, Definition.id_of_bare_eq h.machine]
  | stop => exact ⟨.failures _ _, h.stop⟩

/-- So do they with any number of requests, whatever time it is for either of them. -/
theorem Twins.serveAll (h : Twins mark it it') {script script' : List (Nat × Request S C E O)}
    (hscript : script'.map Prod.snd = script.map Prod.snd) :
    List.Forall₂ Reply.Alike (it.serveAll script).2 (it'.serveAll script').2 ∧
      Twins mark (it.serveAll script).1 (it'.serveAll script').1 := by
  induction script generalizing it it' script' with
  | nil =>
    obtain rfl := List.map_eq_nil_iff.mp hscript
    exact ⟨.nil, h⟩
  | cons first script ih =>
    cases script' with
    | nil => cases hscript
    | cons first' script' =>
      obtain ⟨time, request⟩ := first
      obtain ⟨time', request'⟩ := first'
      obtain ⟨rfl, hrest⟩ := List.cons.inj hscript
      obtain ⟨hreply, hserved⟩ := (h.advanceTo time time').serve request'
      obtain ⟨hreplies, hlast⟩ := ih hserved hrest
      exact ⟨.cons hreply hreplies, hlast⟩

/-! ## Nobody can tell -/

variable {d d' : Definition S C E K O} {options : Options} {it₀ it₀' : Interpreter S C E K O}

omit [DecidableEq K] [Kinded E K] in
/-- Interpreters that begin at the same position, one of each machine, are twins. -/
lemma Twins.of_fresh (hbare : d'.bare = d.bare) (hsilent : d.Silent) (hsilent' : d'.Silent)
    (hsigned : d.Signed mark) (hsigned' : d'.Signed mark) (hfresh : Fresh d options it₀)
    (hfresh' : Fresh d' options it₀') (hsnapshot : it₀'.snapshot = it₀.snapshot)
    (hhistory : it₀'.history.undated = it₀.history.undated) : Twins mark it₀ it₀' := by
  obtain ⟨now, timers, hplaced⟩ := hfresh.exists_placed
  obtain ⟨now', timers', hplaced'⟩ := hfresh'.exists_placed
  rw [hplaced, hplaced', hsnapshot]
  exact
    { machine := hbare
      options := rfl
      status := rfl
      snapshot := rfl
      history := hhistory
      nextSubscription := rfl
      subscribers := rfl
      watched := rfl
      inbox := rfl
      onstage := rfl
      tame := ⟨hsilent, hsigned, nofun⟩
      tame' := ⟨hsilent', hsigned', nofun⟩
      external := nofun }

/-- Effects that send nothing are invisible to the machine, whether they run, fail or are missing.
Two machines that differ in such effects alone reply alike to whatever is asked of them, each at its
own time: the results and the errors are the same, and so are the checkpoints apart from the times.
Afterwards they are in the same position with the same history apart from the times, the same
observers and the same events waiting, and both journals tell the same of everything but the
effects, every publication and everyone who was shown it included.  Notes count as those of effects
if they bear the mark, which may be one that every note bears. -/
theorem silent_effects_invisible (hbare : d'.bare = d.bare) (hsilent : d.Silent)
    (hsilent' : d'.Silent) (hsigned : d.Signed mark) (hsigned' : d'.Signed mark)
    (hfresh : Fresh d options it₀) (hfresh' : Fresh d' options it₀')
    (hsnapshot : it₀'.snapshot = it₀.snapshot)
    (hhistory : it₀'.history.undated = it₀.history.undated)
    {script script' : List (Nat × Request S C E O)}
    (hscript : script'.map Prod.snd = script.map Prod.snd) :
    List.Forall₂ Reply.Alike (it₀.serveAll script).2 (it₀'.serveAll script').2 ∧
      Akin mark (it₀.serveAll script).1 (it₀'.serveAll script').1 := by
  have htwins := Twins.of_fresh hbare hsilent hsilent' hsigned hsigned' hfresh hfresh' hsnapshot
    hhistory
  obtain ⟨hreplies, hlast⟩ := htwins.serveAll hscript
  exact ⟨hreplies, hlast.toAkin⟩

end

end Interpreter

namespace Lamp

open Interpreter

/-- An effect that does not start before the count of two, and whose cleanup fails. -/
def crackle : Effect Int64 Event Unit where
  id := "crackle"
  launch _ count :=
    if count < 2 then { result := .error (.startFailed "crackle" "cold") }
    else
      { outputs := [.note ()]
        result := .ok { cleanup := some fun _ => { failure := some "stuck" } } }

/-- The dimmer that crackles in every state. -/
def crackling : Draft State Int64 Event Event Unit :=
  { dimmer with states := dimmer.states.map fun s => { s with effect := crackle } }

lemma crackle_silent : crackle.Silent where
  outputs _ count := by
    simp only [Effect.start, crackle]
    split <;> rfl
  handle {_ count _} hstart := by
    simp only [Effect.start, crackle] at hstart
    split at hstart
    · cases hstart
    · obtain rfl := Except.ok.inj hstart
      exact ⟨rfl, fun _ => rfl⟩

lemma crackling_silent : crackling.compile.Silent := by
  intro state effect heffect
  cases state <;>
    · obtain rfl := Option.some.inj heffect
      exact crackle_silent

/-- A start, a press, a look at the position and the stop, at so many nanoseconds. -/
def visit (first distance : Nat) : List (Nat × Request State Int64 Event Unit) :=
  [(first, .start 9), (first + distance, .send 9 .press),
    (first + 2 * distance, .checkpoint "dimmer"), (first + 3 * distance, .stop)]

end Lamp

open Lamp in
/-- The dimmer that glows and the one that crackles, visited at different times, are told apart by
the failure of the stop alone. -/
theorem Interpreter.silent_effects_invisible_lamp :
    let glowing := (Interpreter.new dimmer.compile).serveAll (visit 0 1000)
    let crackling := (Interpreter.new crackling.compile).serveAll (visit 7 60)
    List.Forall₂ Reply.Alike glowing.2 crackling.2 ∧ Akin (fun _ => true) glowing.1 crackling.1 ∧
      glowing.2.getLast? = some (.stopped []) ∧
      crackling.2.getLast? = some (.stopped [.cleanupFailed "crackle" "stuck"]) := by
  have hbare : crackling.compile.bare = dimmer.compile.bare := rfl
  have hscript : (visit 7 60).map Prod.snd = (visit 0 1000).map Prod.snd := rfl
  obtain ⟨hreplies, hakin⟩ := silent_effects_invisible hbare dimmer_silent crackling_silent
    (Definition.signed_true _) (Definition.signed_true _) (.new 0 true) (.new 0 true) rfl rfl
    hscript
  exact ⟨hreplies, hakin, rfl, rfl⟩

end Macrostep
