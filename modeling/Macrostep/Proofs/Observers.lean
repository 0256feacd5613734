/-
# Who is told of snapshots

A snapshot is published by replacing the watched value and then calling every observer once, in the
order of their subscription (`Interpreter.calls_of_emit`).  A move of a course either publishes the
position at which it ends, or it leaves the audience alone, or an observer comes or goes
(`Interpreter.Airing`); what it publishes is a position of rest, unless the eventless transitions
that led there were cut (`Candid`).

In every interpreter the audience is in order (`Interpreter.Attentive`): the numbers of
subscriptions grow and are never used twice, every observer remembers what the journal tells that
it was shown, and the watched value is the current position.
-/
import Macrostep.Proofs.JournalOrder

namespace Macrostep

open Occurrence

namespace Occurrence

variable {S C E O : Type}

/-- The number of the subscription whose observer was shown a snapshot, and the snapshot. -/
def heard? : Occurrence S C E O → Option (Nat × Snapshot S C)
  | observed id s => some (id, s)
  | _ => none

/-- The snapshot that the observer of a subscription was shown. -/
def shown? (id : Nat) (o : Occurrence S C E O) : Option (Snapshot S C) :=
  o.heard?.bind fun (id', s) => if id' = id then some s else none

/-- Whether it is news for those outside: the machine starts, a snapshot is published, or an
observer is shown one. -/
def isNews : Occurrence S C E O → Bool
  | started _ | emitted _ | observed .. => true
  | _ => false

/-- Whether it is what a publication can come of: the start, or an event that is taken. -/
def isCue : Occurrence S C E O → Bool
  | started _ | taken _ => true
  | _ => false

lemma heard?_of_isCue {o : Occurrence S C E O} (h : o.isCue = true) : o.heard? = none := by
  cases o <;> first | rfl | cases h

lemma emitted?_of_isCue {o : Occurrence S C E O} (h : o.isCue = true) : o.emitted? = none := by
  cases o <;> first | rfl | cases h

lemma isNews_of_isWork {o : Occurrence S C E O} (h : o.isWork = true) : o.isNews = false := by
  cases o <;> first | rfl | cases h

lemma isNews_of_isReport {o : Occurrence S C E O} (h : o.isReport = true) : o.isNews = false :=
  isNews_of_isWork (isWork_of_isReport h)

lemma heard?_of_not_isNews {o : Occurrence S C E O} (h : o.isNews = false) : o.heard? = none := by
  cases o <;> first | rfl | cases h

lemma emitted?_of_not_isNews {o : Occurrence S C E O} (h : o.isNews = false) :
    o.emitted? = none := by
  cases o <;> first | rfl | cases h

lemma shown?_of_heard?_eq_none {o : Occurrence S C E O} (h : o.heard? = none) (id : Nat) :
    o.shown? id = none := by
  rw [shown?, h]
  rfl

/-- What one observer was shown is what it heard among all that was heard. -/
lemma filterMap_shown? (id : Nat) (l : List (Occurrence S C E O)) :
    l.filterMap (shown? id) =
      (l.filterMap heard?).filterMap fun (id', s) => if id' = id then some s else none :=
  (List.filterMap_filterMap).symm

end Occurrence

section

variable {S C E O : Type} {l : List (Occurrence S C E O)}

lemma heard_of_quiet (h : ∀ o ∈ l, o.isNews = false) : l.filterMap heard? = [] :=
  List.filterMap_eq_nil_iff.mpr fun o ho => heard?_of_not_isNews (h o ho)

lemma shown_of_quiet (h : ∀ o ∈ l, o.isNews = false) (id : Nat) : l.filterMap (shown? id) = [] := by
  rw [filterMap_shown?, heard_of_quiet h]
  rfl

lemma emitted_of_quiet (h : ∀ o ∈ l, o.isNews = false) : l.filterMap emitted? = [] :=
  List.filterMap_eq_nil_iff.mpr fun o ho => emitted?_of_not_isNews (h o ho)

end

/-- What is told of an observer that is shown a snapshot: that it is shown it, and what it does. -/
def Subscriber.account {S C E O : Type} (subscriber : Subscriber S C E O) (accepting : Bool)
    (s : Snapshot S C) : List (Occurrence S C E O) :=
  .observed subscriber.id s ::
    (subscriber.react subscriber.seen s).map (·.report .external accepting)

/-- What is told up to the publication of `s` is candid: the machine rests there, or the last thing
that it did was to give up. -/
def Candid {S C E K O : Type} [DecidableEq S] (d : Definition S C E K O) (limit : Nat)
    (work : List (Occurrence S C E O)) (s : Snapshot S C) : Prop :=
  d.rests s = true ∨ ∃ steps sent, work = steps ++ .unsettled s.state limit :: sent ∧
    ∀ o ∈ sent, o.isReport = true

/-- Whatever is told before stays candid. -/
lemma Candid.after {S C E K O : Type} [DecidableEq S] {d : Definition S C E K O} {limit : Nat}
    {work : List (Occurrence S C E O)} {s : Snapshot S C} (h : Candid d limit work s)
    (before : List (Occurrence S C E O)) : Candid d limit (before ++ work) s := by
  rcases h with hrests | ⟨steps, sent, rfl, hsent⟩
  · exact .inl hrests
  · exact .inr ⟨before ++ steps, sent, (List.append_assoc ..).symm, hsent⟩

/-- What others send meanwhile comes before the end or after it. -/
lemma Candid.woven {S C E K O : Type} [DecidableEq S] {d : Definition S C E K O} {limit : Nat}
    {work extra work' : List (Occurrence S C E O)} {s : Snapshot S C} (h : Candid d limit work s)
    (hwoven : Interleaved work extra work') (hextra : ∀ o ∈ extra, o.isReport = true) :
    Candid d limit work' s := by
  rcases h with hrests | ⟨steps, sent, rfl, hsent⟩
  · exact .inl hrests
  · obtain ⟨steps', sent', first, last, rfl, rfl, -, hlast⟩ := hwoven.split
    rw [List.forall_mem_append] at hextra
    exact .inr ⟨steps', sent', rfl, hlast.forall_mem hsent hextra.2⟩

/-- The publication of `s` to the observers with the numbers `ids`: the work that comes before it is
candid, and then each of them is shown `s` once, in this order. -/
structure Broadcast {S C E K O : Type} [DecidableEq S] (d : Definition S C E K O) (limit : Nat)
    (ids : List Nat) (work : List (Occurrence S C E O)) (s : Snapshot S C)
    (after : List (Occurrence S C E O)) : Prop where
  isWork : ∀ o ∈ work, o.isWork = true
  candid : Candid d limit work s
  isAside : ∀ o ∈ after, o.isAside = true
  heard : after.filterMap heard? = ids.map fun id => (id, s)

section

variable {S C E K O : Type} {s : Snapshot S C} {accepting : Bool}
  {subscribers : List (Subscriber S C E O)}

lemma isAside_of_mem_account {subscriber : Subscriber S C E O} :
    ∀ o ∈ subscriber.account accepting s, o.isAside = true :=
  List.forall_mem_cons.mpr
    ⟨rfl, fun o ho => isAside_of_isReport (Interpreter.forall_isReport_map _ _ _ o ho)⟩

/-- Of what an observer does nothing is heard. -/
lemma heard_account (subscriber : Subscriber S C E O) :
    (subscriber.account accepting s).filterMap heard? = [(subscriber.id, s)] := by
  have hreports : ∀ o ∈ (subscriber.react subscriber.seen s).map
      (fun output => (output.report .external accepting : Occurrence S C E O)), o.isNews = false :=
    fun o ho => isNews_of_isReport (Interpreter.forall_isReport_map _ _ _ o ho)
  rw [Subscriber.account, List.filterMap_cons_some (f := heard?) rfl, heard_of_quiet hreports]

lemma heard_accounts (subscribers : List (Subscriber S C E O)) :
    (subscribers.flatMap (·.account accepting s)).filterMap heard? =
      (subscribers.map Subscriber.id).map fun id => (id, s) := by
  induction subscribers with
  | nil => rfl
  | cons subscriber subscribers ih =>
    rw [List.flatMap_cons, List.filterMap_append, heard_account, ih]
    rfl

/-- A publication is one whatever others send meanwhile. -/
lemma Broadcast.woven [DecidableEq S] {d : Definition S C E K O} {limit : Nat}
    {work sent l : List (Occurrence S C E O)} (hwork : ∀ o ∈ work, o.isWork = true)
    (hcandid : Candid d limit work s) (hsent : ∀ o ∈ sent, o.isReport = true)
    (hwoven : Interleaved (work ++ .emitted s :: subscribers.flatMap (·.account accepting s))
      sent l) :
    ∃ work' after, l = work' ++ .emitted s :: after ∧
      Broadcast d limit (subscribers.map Subscriber.id) work' s after := by
  obtain ⟨work', after, during, later, rfl, rfl, hbefore, hbehind⟩ := hwoven.split
  rw [List.forall_mem_append] at hsent
  refine ⟨work', after, rfl, ?_, hcandid.woven hbefore hsent.1, ?_, ?_⟩
  · exact hbefore.forall_mem hwork fun o ho => isWork_of_isReport (hsent.1 o ho)
  · refine hbehind.forall_mem ?_ fun o ho => isAside_of_isReport (hsent.2 o ho)
    intro o ho
    obtain ⟨subscriber, -, ho⟩ := List.mem_flatMap.mp ho
    exact isAside_of_mem_account o ho
  · rw [hbehind.filterMap_eq fun o ho => heard?_of_not_isNews (isNews_of_isReport (hsent.2 o ho))]
    exact heard_accounts subscribers

end

namespace Interpreter

variable {S C E K O : Type} {it it' : Interpreter S C E K O} {told : List (Occurrence S C E O)}

/-! ## Publication -/

/-- The interpreter that has replaced the watched value and has called nobody yet. -/
def aired (it : Interpreter S C E K O) : Interpreter S C E K O :=
  { it with watched := ⟨it.snapshot, it.watched.version + 1⟩ }.log (.emitted it.snapshot)

lemma showTo_account (it : Interpreter S C E K O) (subscriber : Subscriber S C E O) :
    it.Adds (subscriber.account it.inbox.accepting it.snapshot) (it.showTo subscriber) := by
  have hshown := Adds.log it (o := .observed subscriber.id it.snapshot) rfl rfl
  exact hshown.trans (performAll_adds _ .external (subscriber.react subscriber.seen it.snapshot))

/-- Observers that are called one after the other. -/
lemma foldl_showTo_account (it : Interpreter S C E K O) (subscribers : List (Subscriber S C E O)) :
    (∃ inbox recorded, subscribers.foldl showTo it = { it with inbox, recorded }) ∧
      it.Adds (subscribers.flatMap (·.account it.inbox.accepting it.snapshot))
        (subscribers.foldl showTo it) := by
  induction subscribers generalizing it with
  | nil => exact ⟨⟨it.inbox, it.recorded, rfl⟩, Adds.refl it⟩
  | cons subscriber subscribers ih =>
    have hadds := showTo_account it subscriber
    obtain ⟨inbox, recorded, hframe⟩ := showTo_frame it subscriber
    have haccepting : (it.showTo subscriber).inbox.accepting = it.inbox.accepting := by
      rw [Inbox.accepting, Inbox.accepting, hadds.reception]
    have hsnapshot : (it.showTo subscriber).snapshot = it.snapshot := by rw [hframe]
    obtain ⟨⟨inbox', recorded', hframe'⟩, hrest⟩ := ih (it.showTo subscriber)
    rw [haccepting, hsnapshot] at hrest
    refine ⟨⟨inbox', recorded', ?_⟩, hadds.trans hrest⟩
    rw [List.foldl_cons, hframe', hframe]

lemma aired_adds (it : Interpreter S C E K O) : it.Adds [.emitted it.snapshot] it.aired :=
  (Adds.log it rfl rfl).congr rfl rfl rfl rfl

lemma emit_adds (it : Interpreter S C E K O) :
    it.Adds (.emitted it.snapshot ::
      it.subscribers.flatMap (·.account it.inbox.accepting it.snapshot)) it.emit :=
  ((aired_adds it).trans (foldl_showTo_account it.aired it.subscribers).2).congr rfl rfl rfl rfl

/-! ## Up to a publication -/

section

variable [DecidableEq S] [Label S] [Kinded E K]

/-- The eventless transitions that come before a publication: what is told of them is work, and they
end well in a position of rest, or they are cut, which is the last thing that is told. -/
structure Settling (it : Interpreter S C E K O) (work : List (Occurrence S C E O))
    (r : Interpreter S C E K O × Except InterpreterError Unit) : Prop where
  kept : it.Kept r.1
  adds : it.Adds work r.1
  isWork : ∀ o ∈ work, o.isWork = true
  verdict : r.2 = it.verdict r.1.snapshot
  candid : Candid it.definition it.options.maxEventlessSteps work r.1.snapshot

omit [Kinded E K] in
/-- Other work may come first. -/
lemma Settling.after {it₁ : Interpreter S C E K O} {first work : List (Occurrence S C E O)}
    {r : Interpreter S C E K O × Except InterpreterError Unit} (h : it₁.Settling work r)
    (hkept : it.Kept it₁) (hadds : it.Adds first it₁) (hwork : ∀ o ∈ first, o.isWork = true) :
    it.Settling (first ++ work) r where
  kept := hkept.trans h.kept
  adds := hadds.trans h.adds
  isWork := List.forall_mem_append.mpr ⟨hwork, h.isWork⟩
  verdict := by rw [h.verdict, verdict_congr hkept]
  candid := by
    have hcandid := h.candid.after first
    rwa [hkept.definition, hkept.options] at hcandid

lemma Settling.afterTake {t : Transition S C E O} {event : Option E}
    {work : List (Occurrence S C E O)}
    {r : Interpreter S C E K O × Except InterpreterError Unit}
    (h : (it.take t event).Settling work r) : ∃ work', it.Settling work' r := by
  obtain ⟨first, htaking, hadds⟩ := take_spec it t event
  exact ⟨_, h.after htaking.kept hadds htaking.effort.isWork⟩

lemma settleWithin_settling (it : Interpreter S C E K O) (steps : Nat) :
    ∃ work, it.Settling work (it.settleWithin steps) := by
  have hdone (here : Interpreter S C E K O)
      (hnone : here.definition.selectEventless here.state here.context = none) (steps : Nat) :
      ∃ work, here.Settling work (here.settleWithin steps) := by
    have hrests := Definition.rests_of_selectEventless (s := here.snapshot) hnone
    rw [settleWithin_of_none hnone]
    refine ⟨[], (Stretch.refl here).toKept, Adds.refl here, by simp, ?_, .inl hrests⟩
    rw [Interpreter.verdict, if_pos hrests]
  induction steps generalizing it with
  | zero =>
    cases hselect : it.definition.selectEventless it.state it.context with
    | none => exact hdone it hselect 0
    | some t =>
      -- the steps are used up, and that is said last
      have hrests := Definition.not_rests_of_selectEventless (s := it.snapshot) hselect
      rw [settleWithin_zero_of_some hselect]
      refine ⟨_, Kept.queue it it.inbox _, Adds.log it rfl rfl, by simp [isWork], ?_,
        .inr ⟨[], [], rfl, by simp⟩⟩
      simp [Interpreter.verdict, show (it.log _).snapshot = it.snapshot from rfl, hrests, state]
  | succ steps ih =>
    cases hselect : it.definition.selectEventless it.state it.context with
    | none => exact hdone it hselect (steps + 1)
    | some t =>
      obtain ⟨work, hwork⟩ := ih (it.take t none)
      rw [settleWithin_succ_of_some hselect]
      exact hwork.afterTake

end

/-! ## What a move does to the audience -/

/-- The machine stays where it is. -/
structure Steady (it it' : Interpreter S C E K O) : Prop where
  status : it'.status = it.status
  snapshot : it'.snapshot = it.snapshot
  watched : it'.watched = it.watched

/-- Nothing happens that anybody outside is told. -/
structure Unheard (it : Interpreter S C E K O) (told : List (Occurrence S C E O))
    (it' : Interpreter S C E K O) : Prop extends it.Steady it' where
  journal : it'.journal = it.journal ++ told
  quiet : ∀ o ∈ told, o.isNews = false
  subscribers : it'.subscribers = it.subscribers
  nextSubscription : it'.nextSubscription = it.nextSubscription

namespace Unheard

variable {it'' : Interpreter S C E K O} {more : List (Occurrence S C E O)}

lemma refl (it : Interpreter S C E K O) : it.Unheard [] it where
  status := rfl
  snapshot := rfl
  watched := rfl
  journal := (List.append_nil _).symm
  quiet := by simp
  subscribers := rfl
  nextSubscription := rfl

lemma log (it : Interpreter S C E K O) {o : Occurrence S C E O} (h : o.isNews = false) :
    it.Unheard [o] (it.log o) where
  status := rfl
  snapshot := rfl
  watched := rfl
  journal := journal_log it o
  quiet := by simpa using h
  subscribers := rfl
  nextSubscription := rfl

lemma performAll (it : Interpreter S C E K O) (origin : Origin) (outputs : List (Output E O)) :
    ∃ told, it.Unheard told (it.performAll origin outputs) := by
  obtain ⟨inbox, recorded, hframe⟩ := performAll_frame it origin outputs
  refine ⟨_, ?_, (performAll_adds it origin outputs).journal, fun o ho => ?_, ?_, ?_⟩
  · rw [hframe]
    exact ⟨rfl, rfl, rfl⟩
  · exact isNews_of_isReport (forall_isReport_map _ _ _ o ho)
  · rw [hframe]
  · rw [hframe]

lemma enqueue (it : Interpreter S C E K O) (origin : Origin) (event : E) :
    ∃ told, it.Unheard told (it.enqueue origin event) :=
  performAll it origin [.send event]

lemma advanceTo (it : Interpreter S C E K O) (time : Nat) (most : Option Nat) :
    ∃ told, it.Unheard told (it.advanceTo time most) := by
  rcases it.advanceTo_cases time most with hadvance | ⟨active, events, due, -, hadvance⟩
  · rw [hadvance]
    exact ⟨[], ⟨rfl, rfl, rfl⟩, (List.append_nil _).symm, by simp, rfl, rfl⟩
  · obtain ⟨told, hsends⟩ := performAll it (.effect active.generation) (events.map .send)
    rw [hadvance]
    exact ⟨told, ⟨hsends.status, hsends.snapshot, hsends.watched⟩, hsends.journal, hsends.quiet,
      hsends.subscribers, hsends.nextSubscription⟩

end Unheard

/-- The numbers of the observers, in the order of their subscription. -/
def audience (it : Interpreter S C E K O) : List Nat := it.subscribers.map Subscriber.id

/-- A publication may come of `o` now: it is the start of a machine that was not started before, or
an event that a running machine takes. -/
def Cues (it : Interpreter S C E K O) (o : Occurrence S C E O) : Prop :=
  o = .started it.state ∧ it.status = .notStarted ∨
    (∃ envelope, o = .taken envelope) ∧ it.status = .running

lemma Cues.isCue {o : Occurrence S C E O} (h : it.Cues o) : o.isCue = true := by
  rcases h with ⟨rfl, -⟩ | ⟨⟨envelope, rfl⟩, -⟩ <;> rfl

lemma Cues.status {o : Occurrence S C E O} (h : it.Cues o) : it.status ≠ .stopped := by
  rcases h with ⟨-, h⟩ | ⟨-, h⟩ <;> rw [h] <;> nofun

/-- How an observer comes. -/
inductive Welcoming (it : Interpreter S C E K O) (react : Observer S C E O) :
    List (Occurrence S C E O) → Interpreter S C E K O → Prop
  /-- Before the start. -/
  | enroll {it' : Interpreter S C E K O} (hstatus : it.status = .notStarted)
      (hsteady : it.Steady it')
      (hsubscribers : it'.subscribers = it.subscribers ++ [⟨it.nextSubscription, react, []⟩])
      (hnext : it'.nextSubscription = it.nextSubscription + 1) : Welcoming it react [] it'
  /-- To a running machine, which shows it the current position. -/
  | join {reports : List (Occurrence S C E O)} {it' : Interpreter S C E K O}
      (hstatus : it.status = .running) (hsteady : it.Steady it')
      (hreports : ∀ o ∈ reports, o.isReport = true)
      (hsubscribers : it'.subscribers =
        it.subscribers ++ [⟨it.nextSubscription, react, [it.snapshot]⟩])
      (hnext : it'.nextSubscription = it.nextSubscription + 1) :
      Welcoming it react (.observed it.nextSubscription it.snapshot :: reports) it'
  /-- After the stop, when nobody is registered any more. -/
  | refuse {it' : Interpreter S C E K O} (hstatus : it.status = .stopped)
      (hsteady : it.Steady it') (hsubscribers : it'.subscribers = it.subscribers)
      (hnext : it'.nextSubscription = it.nextSubscription + 1) : Welcoming it react [] it'

/-- What a move of an interpreter does to its audience, and what is told of it. -/
inductive Airing [DecidableEq S] (it : Interpreter S C E K O) :
    List (Occurrence S C E O) → Interpreter S C E K O → Prop
  /-- Nobody is told anything. -/
  | quiet {told : List (Occurrence S C E O)} {it' : Interpreter S C E K O}
      (hunheard : it.Unheard told it') : Airing it told it'
  /-- The first start, or an event that is handled: the position at its end is published. -/
  | publish {cause : Occurrence S C E O} {work after : List (Occurrence S C E O)}
      {it' : Interpreter S C E K O}
      (hcues : it.Cues cause)
      (hbroadcast : Broadcast it.definition it.options.maxEventlessSteps it.audience work
        it'.snapshot after)
      (hstatus : it'.status = .running)
      (hwatched : it'.watched = ⟨it'.snapshot, it.watched.version + 1⟩)
      (hsubscribers : it'.subscribers =
        it.subscribers.map fun o => { o with seen := it'.snapshot :: o.seen })
      (hnext : it'.nextSubscription = it.nextSubscription) :
      Airing it (cause :: (work ++ .emitted it'.snapshot :: after)) it'
  /-- An observer comes. -/
  | welcome {react : Observer S C E O} {told : List (Occurrence S C E O)}
      {it' : Interpreter S C E K O} (hwelcoming : it.Welcoming react told it') : Airing it told it'
  /-- An observer goes. -/
  | part (id : Nat) : Airing it [] (it.unsubscribe id).1
  /-- The machine is stopped, and all observers go. -/
  | close {told : List (Occurrence S C E O)} (hquiet : ∀ o ∈ told, o.isNews = false)
      (hstatus : it.stop.1.status = .stopped) (hsnapshot : it.stop.1.snapshot = it.snapshot)
      (hwatched : it.stop.1.watched = it.watched) (hsubscribers : it.stop.1.subscribers = [])
      (hnext : it.stop.1.nextSubscription = it.nextSubscription) : Airing it told it.stop.1

/-- Nobody is told of the stop. -/
lemma stop_quiet (it : Interpreter S C E K O) :
    ∃ told, it.stop.1.journal = it.journal ++ told ∧ ∀ o ∈ told, o.isNews = false := by
  by_cases hstopped : it.status = .stopped
  · rw [stop_of_stopped hstopped]
    exact ⟨[], (List.append_nil _).symm, by simp⟩
  obtain ⟨told, hhalt⟩ := stop_spec hstopped
  obtain ⟨rest, hrest, htold⟩ := hhalt.shape
  refine ⟨told, hhalt.journal, ?_⟩
  rw [htold]
  intro o ho
  simp only [List.mem_append, List.mem_singleton, farewell, List.mem_map] at ho
  rcases ho with (⟨active, -, rfl⟩ | ho) | rfl
  · rfl
  · rcases hrest o ho with hreport | ⟨error, rfl⟩
    · exact isNews_of_isReport hreport
    · rfl
  · rfl

/-- The stop sends everybody away and leaves the rest of the audience's affairs alone. -/
lemma stop_dismisses (h : it.status ≠ .stopped) :
    it.stop.1.subscribers = [] ∧ it.stop.1.nextSubscription = it.nextSubscription ∧
      it.stop.1.watched = it.watched := by
  rw [stop_eq h]
  exact ⟨rfl, rfl, rfl⟩

lemma stop_airing [DecidableEq S] (it : Interpreter S C E K O) :
    ∃ told, it.stop.1.journal = it.journal ++ told ∧ it.Airing told it.stop.1 := by
  by_cases hstopped : it.status = .stopped
  · rw [stop_of_stopped hstopped]
    exact ⟨[], (Unheard.refl it).journal, .quiet (Unheard.refl it)⟩
  obtain ⟨told, hjournal, hquiet⟩ := stop_quiet it
  obtain ⟨_, hhalt⟩ := stop_spec hstopped
  obtain ⟨hsubscribers, hnext, hwatched⟩ := stop_dismisses hstopped
  exact ⟨told, hjournal, .close hquiet hhalt.status hhalt.snapshot hwatched hsubscribers hnext⟩

lemma subscribe_snd (it : Interpreter S C E K O) (react : Observer S C E O) :
    (it.subscribe react).2 = it.nextSubscription := by
  unfold subscribe
  dsimp only
  split <;> rfl

/-- A machine that does not run shows a newcomer nothing. -/
lemma subscribe_of_not_running (h : it.status ≠ .running) (react : Observer S C E O) :
    (it.subscribe react).1 =
      { it with
        nextSubscription := it.nextSubscription + 1
        subscribers :=
          if it.status = .stopped then it.subscribers
          else it.subscribers ++ [⟨it.nextSubscription, react, []⟩] } := by
  cases hstatus : it.status with
  | running => exact absurd hstatus h
  | notStarted => simp [subscribe, hstatus]
  | stopped => simp [subscribe, hstatus]

/-- The interpreter that has shown the position to a newcomer. -/
def greeting (it : Interpreter S C E K O) (react : Observer S C E O) : Interpreter S C E K O :=
  ({ it with nextSubscription := it.nextSubscription + 1 } : Interpreter S C E K O).showTo
    ⟨it.nextSubscription, react, []⟩

/-- A machine that runs greets a newcomer, who has then seen the position. -/
lemma subscribe_eq_of_running (h : it.status = .running) (react : Observer S C E O) :
    (it.subscribe react).1 =
      { it.greeting react with
        subscribers :=
          (it.greeting react).subscribers ++ [⟨it.nextSubscription, react, [it.snapshot]⟩] } := by
  cases it
  cases h
  rfl

lemma subscribe_of_running (h : it.status = .running) (react : Observer S C E O) :
    ∃ inbox recorded, (it.subscribe react).1 =
      { it with
        nextSubscription := it.nextSubscription + 1
        subscribers := it.subscribers ++ [⟨it.nextSubscription, react, [it.snapshot]⟩]
        inbox, recorded } ∧
      it.Adds
        (Subscriber.account ⟨it.nextSubscription, react, []⟩ it.inbox.accepting it.snapshot)
        (it.subscribe react).1 := by
  let counted : Interpreter S C E K O := { it with nextSubscription := it.nextSubscription + 1 }
  let newcomer : Subscriber S C E O := ⟨it.nextSubscription, react, []⟩
  obtain ⟨inbox, recorded, hframe⟩ : ∃ inbox recorded,
      it.greeting react = { counted with inbox, recorded } := showTo_frame counted newcomer
  have hadds := showTo_account counted newcomer
  rw [subscribe_eq_of_running h]
  exact ⟨inbox, recorded, by rw [hframe], hadds.congr rfl rfl rfl rfl⟩

/-- An observer comes, and others may send meanwhile. -/
theorem subscribe_welcoming {react : Observer S C E O}
    (h : it' = (it.subscribe react).1 ∨ it.Meanwhile (it.subscribe react).1 it') :
    ∃ told, it'.journal = it.journal ++ told ∧ it.Welcoming react told it' := by
  by_cases hrunning : it.status = .running
  · obtain ⟨inbox, recorded, hsubscribe, hadds⟩ := subscribe_of_running hrunning react
    have hamid : it.Meanwhile (it.subscribe react).1 it' := by
      rcases h with rfl | hamid
      · exact .refl hadds (List.cons_ne_nil _ _)
      · exact hamid
    obtain ⟨first, rest, sent, reports, htold, hwoven, hsent, hadds'⟩ := hamid.adds hadds
    obtain ⟨rfl, rfl⟩ := List.cons.inj htold
    have hreports := hwoven.forall_mem (forall_isReport_map _ _ _) hsent
    obtain ⟨queue, recorded', rfl⟩ := hamid.exists_amid
    rw [hsubscribe] at hadds' ⊢
    exact ⟨_, hadds'.journal, .join hrunning ⟨rfl, rfl, rfl⟩ hreports rfl rfl⟩
  · have hsubscribe := subscribe_of_not_running hrunning react
    have hcome : it' = (it.subscribe react).1 := by
      rcases h with rfl | hamid
      · rfl
      -- nothing is told, so there was no occasion to send
      · have hadds : it.Adds [] (it.subscribe react).1 := by
          rw [hsubscribe]
          exact (Adds.refl it).congr rfl rfl rfl rfl
        obtain ⟨first, rest, -, -, htold, -⟩ := hamid.adds hadds
        cases htold
    rw [hcome, hsubscribe]
    refine ⟨[], (List.append_nil _).symm, ?_⟩
    cases hstatus : it.status with
    | running => exact absurd hstatus hrunning
    | notStarted => exact .enroll hstatus ⟨hstatus.symm, rfl, rfl⟩ rfl rfl
    | stopped => exact .refuse hstatus ⟨hstatus.symm, rfl, rfl⟩ rfl rfl

section

variable [DecidableEq S] [Label S] [DecidableEq K] [Kinded E K]

omit [DecidableEq K] in
lemma booting_settling (it : Interpreter S C E K O) :
    ∃ work, ({ it with status := .running }.log (.started it.state)).Settling work it.booting := by
  let begun : Interpreter S C E K O := { it with status := .running }.log (.started it.state)
  obtain ⟨first, hlaunch, hadds⟩ := launch_spec begun
  obtain ⟨work, hsettle⟩ :=
    settleWithin_settling begun.launch begun.launch.options.maxEventlessSteps
  exact ⟨_, hsettle.after hlaunch.stays.toKept hadds hlaunch.effort.isWork⟩

/-- An event is discarded or not handled, or the position after its transition and the eventless
ones is published. -/
lemma resolve_settling (it : Interpreter S C E K O) (envelope : Envelope E) :
    (∃ o, o.isNews = false ∧ it.Adds [o] (it.log o) ∧
      it.resolve envelope = (it.log o, .ok ())) ∨
      ∃ work r, it.Settling work r ∧ it.resolve envelope = (r.1.emit, r.2) := by
  unfold resolve
  split
  · exact .inl ⟨_, rfl, Adds.log it rfl rfl, rfl⟩
  · split
    · exact .inl ⟨_, rfl, Adds.log it rfl rfl, rfl⟩
    · rename_i t _
      obtain ⟨work, hsettle⟩ := settleWithin_settling (it.take t (some envelope.event))
        (it.take t (some envelope.event)).options.maxEventlessSteps
      obtain ⟨work', hsettle'⟩ := hsettle.afterTake
      exact .inr ⟨work', _, hsettle', rfl⟩

omit [DecidableEq K] [Kinded E K] in
/-- The position that was settled is published, and others may send meanwhile. -/
lemma Settling.airing {base : Interpreter S C E K O} {cause : Occurrence S C E O}
    {work sent l : List (Occurrence S C E O)}
    {r : Interpreter S C E K O × Except InterpreterError Unit} (h : base.Settling work r)
    (hcues : it.Cues cause) (hrunning : base.status = .running)
    (hdefinition : base.definition = it.definition)
    (hoptions : base.options = it.options) (hsubscribers : base.subscribers = it.subscribers)
    (hwatched : base.watched = it.watched)
    (hnext : base.nextSubscription = it.nextSubscription)
    (hwoven : Interleaved (work ++ .emitted r.1.snapshot ::
      r.1.subscribers.flatMap (·.account r.1.inbox.accepting r.1.snapshot)) sent l)
    (hsent : ∀ o ∈ sent, o.isReport = true) (queue : Queue (Envelope E))
    (recorded : List (Occurrence S C E O)) :
    it.Airing (cause :: l) (r.1.emit.amid queue recorded) := by
  obtain ⟨work', after, rfl, hbroadcast⟩ := Broadcast.woven h.isWork h.candid hsent hwoven
  obtain ⟨-, -, -, hemit, hreplaced, hseen⟩ := emit_spec r.1
  have hsnapshot : (r.1.emit.amid queue recorded).snapshot = r.1.snapshot := hemit.snapshot
  rw [hdefinition, hoptions, h.kept.subscribers, hsubscribers] at hbroadcast
  rw [h.kept.subscribers, hsubscribers] at hseen
  rw [h.kept.watched, hwatched] at hreplaced
  rw [← hsnapshot] at hbroadcast hseen hreplaced ⊢
  refine .publish hcues hbroadcast ?_ hreplaced hseen ?_
  · exact hemit.status.trans (h.kept.status.trans hrunning)
  · exact hemit.nextSubscription.trans (h.kept.nextSubscription.trans hnext)

omit [DecidableEq K] in
lemma boot_airing (hstatus : it.status = .notStarted) (hamid : it.Meanwhile it.booted it') :
    ∃ told, it'.journal = it.journal ++ told ∧ it.Airing told it' := by
  let begun : Interpreter S C E K O := { it with status := .running }.log (.started it.state)
  have hbegun : it.Adds [.started it.state] begun := (Adds.log it rfl rfl).congr rfl rfl rfl rfl
  obtain ⟨work, hsettle⟩ := booting_settling it
  obtain ⟨first, rest, sent, rest', htold, hwoven, hsent, hadds⟩ :=
    hamid.adds (hbegun.trans (hsettle.adds.trans (emit_adds it.booting.1)))
  obtain ⟨rfl, rfl⟩ := List.cons.inj htold
  obtain ⟨queue, recorded, rfl⟩ := hamid.exists_amid
  exact ⟨_, hadds.journal,
    hsettle.airing (.inl ⟨rfl, hstatus⟩) rfl rfl rfl rfl rfl rfl hwoven hsent queue recorded⟩

lemma turn_airing {envelope : Envelope E} {inbox : Inbox E} (hstatus : it.status = .running)
    (hamid : (it.receiving envelope inbox).Meanwhile (it.step envelope inbox).1 it') :
    ∃ told, it'.journal = it.journal ++ told ∧ it.Airing told it' := by
  obtain ⟨queue, recorded, rfl⟩ := hamid.exists_amid
  rcases resolve_settling (it.receiving envelope inbox) envelope with
    ⟨o, ho, hlog, hresolve⟩ | ⟨work, r, hsettle, hresolve⟩
  · have hstep : (it.step envelope inbox).1 = (it.receiving envelope inbox).log o :=
      congrArg Prod.fst hresolve
    rw [hstep] at hamid ⊢
    obtain ⟨first, rest, sent, rest', htold, hwoven, hsent, hadds⟩ := hamid.adds hlog
    obtain ⟨rfl, rfl⟩ := List.cons.inj htold
    have hquiet : ∀ o' ∈ rest', o'.isNews = false :=
      hwoven.forall_mem (by simp) fun o' ho' => isNews_of_isReport (hsent o' ho')
    have hjournal := journal_of_receiving hadds
    exact ⟨_, hjournal, .quiet ⟨⟨rfl, rfl, rfl⟩, hjournal,
      List.forall_mem_cons.mpr ⟨rfl, List.forall_mem_cons.mpr ⟨ho, hquiet⟩⟩, rfl, rfl⟩⟩
  · have hstep : (it.step envelope inbox).1 = r.1.emit := congrArg Prod.fst hresolve
    rw [hstep] at hamid ⊢
    obtain ⟨first, rest, sent, rest', htold, hwoven, hsent, hadds⟩ :=
      hamid.adds (hsettle.adds.trans (emit_adds r.1))
    have hwoven' := hwoven.keep first
    rw [← htold] at hwoven'
    exact ⟨_, journal_of_receiving hadds,
      hsettle.airing (.inr ⟨⟨envelope, rfl⟩, hstatus⟩) hstatus rfl rfl rfl rfl rfl hwoven' hsent
        queue recorded⟩

/-- Every move does one of these things to the audience. -/
theorem Move.airing (h : it.Move it') :
    ∃ told, it'.journal = it.journal ++ told ∧ it.Airing told it' := by
  have hquiet (h : ∃ told, it.Unheard told it') :
      ∃ told, it'.journal = it.journal ++ told ∧ it.Airing told it' := by
    obtain ⟨told, hunheard⟩ := h
    exact ⟨told, hunheard.journal, .quiet hunheard⟩
  have hwelcome {react : Observer S C E O}
      (h : ∃ told, it'.journal = it.journal ++ told ∧ it.Welcoming react told it') :
      ∃ told, it'.journal = it.journal ++ told ∧ it.Airing told it' := by
    obtain ⟨told, hjournal, hwelcoming⟩ := h
    exact ⟨told, hjournal, .welcome hwelcoming⟩
  cases h with
  | boot hstatus => exact boot_airing hstatus (booted_meanwhile it)
  | turn hstatus hpop => exact turn_airing hstatus (step_meanwhile it _ _)
  | bootAmid hstatus hamid => exact boot_airing hstatus hamid
  | turnAmid hstatus hpop hamid => exact turn_airing hstatus hamid
  | subscribeAmid react hamid => exact hwelcome (subscribe_welcoming (.inr hamid))
  | post origin event => exact hquiet (Unheard.enqueue it origin event)
  | startIgnored => exact hquiet ⟨_, Unheard.log it rfl⟩
  | deferred event => exact hquiet ⟨_, Unheard.log it rfl⟩
  | dropped event => exact hquiet ⟨_, Unheard.log it rfl⟩
  | ignored event => exact hquiet ⟨_, Unheard.log it rfl⟩
  | subscribe react => exact hwelcome (subscribe_welcoming (.inl rfl))
  | unsubscribe id => exact ⟨[], (List.append_nil _).symm, .part id⟩
  | takeWarnings => exact hquiet ⟨[], ⟨rfl, rfl, rfl⟩, (List.append_nil _).symm, by simp, rfl, rfl⟩
  | advance time most => exact hquiet (Unheard.advanceTo it time most)
  | halt => exact stop_airing it

end

end Interpreter

end Macrostep
