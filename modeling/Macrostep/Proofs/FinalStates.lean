/-
# Final states

A final state has neither transitions nor an effect, since no machine is built that gives it any
(`Draft.final_of_build`); transitions that all states share are not looked at in it.  So a machine
that runs in a final state is over (`Interpreter.Over`): events are taken and lead nowhere, whoever
sends them, and newcomers are shown where it stands.  Nothing else happens, no matter how long it is
visited (`Interpreter.Visits`), and no call fails.

A machine that is started in a final state publishes it once and is over
(`Interpreter.final_absorbs`).
-/
import Macrostep.Proofs.ActiveEffect
import Macrostep.Proofs.ObserverViews
import Macrostep.Proofs.Resumption

namespace Macrostep

open Occurrence

variable {S C E K O : Type}

namespace Occurrence

/-- Whether it leads nowhere: it stands beside the machine, or an event is taken from the inbox, or
thrown away. -/
def isVain : Occurrence S C E O → Bool
  | taken _ | stale .. | unhandled .. => true
  | o => o.isAside

lemma isVain_of_isAside {o : Occurrence S C E O} (h : o.isAside = true) : o.isVain = true := by
  cases o <;> first | rfl | exact absurd h (by simp [isAside, isReport])

lemma isVain_of_isReport {o : Occurrence S C E O} (h : o.isReport = true) : o.isVain = true :=
  isVain_of_isAside (isAside_of_isReport h)

end Occurrence

/-! ## Final states of machines that were built -/

section

variable [DecidableEq S] [DecidableEq K] [Kinded E K] {d : Definition S C E K O} {state : S}

/-- An event leads nowhere from a final state, not even a shared transition. -/
lemma Definition.select_of_isFinal (h : d.isFinal state = true) (context : C) (event : E) :
    d.select state context event = none := by
  unfold select
  cases hnode : d.node? state with
  | none => rfl
  | some node =>
    have hfinal : node.isFinal = true := by simpa [isFinal, hnode] using h
    exact if_pos hfinal

variable [Label S] {draft : Draft S C E K O}

omit [DecidableEq K] [Kinded E K] in
/-- A declaration without faults gives a final state no transitions and no effect. -/
lemma StateDraft.inert_of_no_fault {s : StateDraft S C E K O} {kindName : K → String}
    {declared : List S} {registry : Registry C E O} (h : s.faults kindName declared registry = [])
    (hfinal : s.isFinal = true) : s.always = [] ∧ s.effect = none := by
  have hactive : s.isActive = false := by
    simp only [faults, List.append_eq_nil_iff, hfinal, Bool.true_and] at h
    simpa using h.1.1
  simp only [isActive, Bool.or_eq_false_iff, Bool.not_eq_false', List.isEmpty_iff,
    Option.isSome_eq_false_iff, Option.isNone_iff_eq_none] at hactive
  exact ⟨hactive.1.2, hactive.2⟩

/-- A final state of a machine that was built invokes no effect and has no eventless transition. -/
theorem Draft.final_of_build (hbuild : draft.build = .ok d) (h : d.isFinal state = true) :
    d.effect? state = none ∧ ∀ context, d.selectEventless state context = none := by
  obtain ⟨hempty, hnodup, rfl⟩ := faultless_of_build hbuild
  simp only [faults, List.append_eq_nil_iff, List.flatMap_eq_nil_iff] at hempty
  cases hnode : draft.compile.node? state with
  | none => simp [Definition.isFinal, hnode] at h
  | some node =>
    obtain ⟨s, hs, rfl⟩ := node?_compile hnodup hnode
    have hfinal : s.isFinal = true := by
      rw [Definition.isFinal, hnode] at h
      exact h
    obtain ⟨halways, heffect⟩ := StateDraft.inert_of_no_fault (hempty.1.2 s hs) hfinal
    constructor
    · rw [Definition.effect?, hnode]
      exact heffect
    · intro context
      rw [Definition.selectEventless, hnode]
      show (s.always.map _).find? _ = none
      rw [halways]
      rfl

end

namespace Interpreter

variable {it it' it'' : Interpreter S C E K O} {told more : List (Occurrence S C E O)}

/-! ## Machines that are over -/

/-- The machine stands where it stood, it runs, and no effect is active. -/
structure Lingers (it it' : Interpreter S C E K O) : Prop where
  definition : it'.definition = it.definition
  options : it'.options = it.options
  snapshot : it'.snapshot = it.snapshot
  history : it'.history = it.history
  generation : it'.generation = it.generation
  warnings : it'.warnings = it.warnings
  status : it'.status = .running
  effect : it'.effect = none

/-- What a newcomer between the two is shown: where the machine stands. -/
def replays (it it' : Interpreter S C E K O) : List (Nat × Snapshot S C) :=
  (List.range' it.nextSubscription (it'.nextSubscription - it.nextSubscription)).map
    fun id => (id, it.snapshot)

/-- Whatever happens on the way leads nowhere, and of it nothing is heard but what newcomers are
shown. -/
structure Absorbs (it : Interpreter S C E K O) (told : List (Occurrence S C E O))
    (it' : Interpreter S C E K O) : Prop extends it.Lingers it' where
  watched : it'.watched = it.watched
  journal : it'.journal = it.journal ++ told
  isVain : ∀ o ∈ told, o.isVain = true
  nextSubscription : it.nextSubscription ≤ it'.nextSubscription
  heard : told.filterMap heard? = it.replays it'

namespace Absorbs

lemma trans (h : it.Absorbs told it') (h' : it'.Absorbs more it'') :
    it.Absorbs (told ++ more) it'' where
  definition := h'.definition.trans h.definition
  options := h'.options.trans h.options
  snapshot := h'.snapshot.trans h.snapshot
  history := h'.history.trans h.history
  generation := h'.generation.trans h.generation
  warnings := h'.warnings.trans h.warnings
  status := h'.status
  effect := h'.effect
  watched := h'.watched.trans h.watched
  journal := by rw [h'.journal, h.journal, List.append_assoc]
  isVain := List.forall_mem_append.mpr ⟨h.isVain, h'.isVain⟩
  nextSubscription := Nat.le_trans h.nextSubscription h'.nextSubscription
  heard := by
    obtain ⟨first, hfirst⟩ := Nat.exists_eq_add_of_le h.nextSubscription
    obtain ⟨last, hlast⟩ := Nat.exists_eq_add_of_le h'.nextSubscription
    rw [List.filterMap_append, h.heard, h'.heard, replays, replays, replays, h.snapshot,
      ← List.map_append, hlast, hfirst, Nat.add_sub_cancel_left, Nat.add_sub_cancel_left,
      List.range'_append_1, Nat.add_assoc, Nat.add_sub_cancel_left]

end Absorbs

section

variable [DecidableEq S] [DecidableEq K] [Kinded E K]

/-- The machine runs, no effect is active, and no event leads anywhere. -/
structure Over (it : Interpreter S C E K O) : Prop where
  status : it.status = .running
  effect : it.effect = none
  deaf : ∀ event, it.definition.select it.state it.context event = none

namespace Over

lemma lingers (h : it.Over) (hlingers : it.Lingers it') : it'.Over where
  status := hlingers.status
  effect := hlingers.effect
  deaf event := by
    rw [state, context, hlingers.definition, hlingers.snapshot]
    exact h.deaf event

/-- Where only the inbox, the journal and the audience change, and nobody hears of it. -/
lemma absorbs (h : it.Over) {now : Nat} {inbox : Inbox E}
    {subscribers : List (Subscriber S C E O)} {recorded : List (Occurrence S C E O)}
    (hjournal : recorded.reverse = it.journal ++ told) (hvain : ∀ o ∈ told, o.isVain = true)
    (hheard : told.filterMap heard? = []) :
    it.Absorbs told { it with now, inbox, subscribers, recorded } where
  definition := rfl
  options := rfl
  snapshot := rfl
  history := rfl
  generation := rfl
  warnings := rfl
  status := h.status
  effect := h.effect
  watched := rfl
  journal := hjournal
  isVain := hvain
  nextSubscription := Nat.le_refl _
  heard := by simp [hheard, replays]

lemma refl (h : it.Over) : it.Absorbs [] it :=
  h.absorbs (List.append_nil _).symm (by simp) rfl

lemma enqueue (h : it.Over) (origin : Origin) (event : E) :
    ∃ told, it.Absorbs told (it.enqueue origin event) := by
  obtain ⟨queue, henqueue, -⟩ := enqueue_eq_amid it origin event
  have hreport := isReport_report (S := S) (C := C) (O := O) origin it.inbox.accepting (.send event)
  have hjournal := (enqueue_adds it origin event).journal
  rw [henqueue] at hjournal ⊢
  refine ⟨_, h.absorbs hjournal ?_ ?_⟩
  · simpa using isVain_of_isReport hreport
  · exact heard_of_quiet (by simpa using isNews_of_isReport hreport)

/-- A newcomer is shown where the machine stands, and others may send meanwhile. -/
lemma subscribe (h : it.Over) {react : Observer S C E O}
    (hcome : it' = (it.subscribe react).1 ∨ it.Meanwhile (it.subscribe react).1 it') :
    ∃ told, it.Absorbs told it' := by
  obtain ⟨told, hjournal, hwelcoming⟩ := subscribe_welcoming hcome
  obtain ⟨inbox, recorded, hsubscribe, -⟩ := subscribe_of_running h.status react
  have hframe : ∃ inbox recorded, it' =
      { it with
        nextSubscription := it.nextSubscription + 1
        subscribers := it.subscribers ++ [⟨it.nextSubscription, react, [it.snapshot]⟩]
        inbox, recorded } := by
    rw [hsubscribe] at hcome
    rcases hcome with rfl | hamid
    · exact ⟨inbox, recorded, rfl⟩
    · obtain ⟨queue, recorded', rfl⟩ := hamid.exists_amid
      exact ⟨{ inbox with queue }, recorded', rfl⟩
  obtain ⟨inbox, recorded, rfl⟩ := hframe
  refine ⟨told, ⟨rfl, rfl, rfl, rfl, rfl, rfl, h.status, h.effect⟩, rfl, hjournal, ?_,
    Nat.le_succ _, ?_⟩
  · cases hwelcoming with
    | enroll => simp
    | refuse => simp
    | join hstatus hsteady hreports =>
      exact List.forall_mem_cons.mpr ⟨rfl, fun o ho => isVain_of_isReport (hreports o ho)⟩
  · cases hwelcoming with
    | enroll hstatus => cases hstatus.symm.trans h.status
    | refuse hstatus => cases hstatus.symm.trans h.status
    | join hstatus hsteady hreports =>
      have hnothing := heard_of_quiet fun o ho => isNews_of_isReport (hreports o ho)
      rw [List.filterMap_cons_some (f := heard?) rfl, hnothing, replays, Nat.add_sub_cancel_left]
      rfl

/-- Nothing ticks. -/
lemma advanceTo (h : it.Over) (time : Nat) (most : Option Nat) :
    ∃ told, it.Absorbs told (it.advanceTo time most) := by
  have hadvance : it.advanceTo time most = { it with now := time } := by
    simp only [Interpreter.advanceTo, h.effect]
  rw [hadvance]
  exact ⟨[], h.absorbs (List.append_nil _).symm (by simp) rfl⟩

variable [Label S]

/-- An event is discarded, or there is nothing that it leads to. -/
lemma step (h : it.Over) (envelope : Envelope E) (inbox : Inbox E) :
    ∃ o, o.isVain = true ∧ o.heard? = none ∧
      (it.receiving envelope inbox).Adds [o] ((it.receiving envelope inbox).log o) ∧
      it.step envelope inbox = ((it.receiving envelope inbox).log o, .ok ()) := by
  have hstep : it.step envelope inbox = (it.receiving envelope inbox).resolve envelope := rfl
  rw [hstep, resolve]
  cases (it.receiving envelope inbox).staleGeneration? envelope with
  | some generation => exact ⟨_, rfl, rfl, Adds.log _ rfl rfl, rfl⟩
  | none =>
    rw [show (it.receiving envelope inbox).definition.select (it.receiving envelope inbox).state
      (it.receiving envelope inbox).context envelope.event = none from h.deaf envelope.event]
    exact ⟨_, rfl, rfl, Adds.log _ rfl rfl, rfl⟩

/-- An event is resolved, and others may send meanwhile. -/
lemma turn (h : it.Over) {envelope : Envelope E} {inbox : Inbox E}
    (hamid : (it.receiving envelope inbox).Meanwhile (it.step envelope inbox).1 it') :
    (∃ told, it.Absorbs told it') ∧ it'.nextSubscription = it.nextSubscription := by
  obtain ⟨o, hvain, hheard, hadds, hstep⟩ := h.step envelope inbox
  rw [hstep] at hamid
  obtain ⟨first, rest, sent, rest', htold, hwoven, hsent, hadds'⟩ := hamid.adds hadds
  obtain ⟨rfl, rfl⟩ := List.cons.inj htold
  have hreports := hwoven.forall_mem (by simp) hsent
  obtain ⟨queue, recorded, rfl⟩ := hamid.exists_amid
  refine ⟨⟨_, h.absorbs (journal_of_receiving hadds') ?_ ?_⟩, rfl⟩
  · refine List.forall_mem_cons.mpr ⟨rfl, List.forall_mem_cons.mpr ⟨hvain, ?_⟩⟩
    exact fun o' ho' => isVain_of_isReport (hreports o' ho')
  · rw [List.filterMap_cons_none rfl, List.filterMap_cons_none hheard]
    exact heard_of_quiet fun o' ho' => isNews_of_isReport (hreports o' ho')

/-- The inbox is emptied, as far as the caller grants. -/
lemma drain (h : it.Over) (budget : Nat) :
    (∃ told, it.Absorbs told (it.drain budget).1) ∧
      (it.drain budget).1.nextSubscription = it.nextSubscription ∧
      ((it.drain budget).2 = .ok () ∨
        (it.drain budget).2 = .error .budgetSpent ∧ budget < it.inbox.waiting.length) := by
  have hdraining := drain_spec it budget
  generalize it.drain budget = r at hdraining ⊢
  induction hdraining with
  | done => exact ⟨⟨[], h.refl⟩, rfl, .inl rfl⟩
  | spent hstatus hwaiting =>
    exact ⟨⟨[], h.refl⟩, rfl, .inr ⟨rfl, List.length_pos_iff.mpr hwaiting⟩⟩
  | @next it budget envelope inbox r hstatus hpop hok hrest ih =>
    obtain ⟨⟨first, hfirst⟩, hnext⟩ := h.turn (step_meanwhile it envelope inbox)
    obtain ⟨⟨rest, hrest⟩, hnext', hresult⟩ := ih (h.lingers hfirst.toLingers)
    obtain ⟨o, -, -, -, hstep⟩ := h.step envelope inbox
    have hwaiting : (it.step envelope inbox).1.inbox.waiting = inbox.waiting := by
      rw [hstep]
      rfl
    refine ⟨⟨_, hfirst.trans hrest⟩, hnext'.trans hnext, hresult.imp_right ?_⟩
    rintro ⟨hspent, hlt⟩
    rw [hwaiting] at hlt
    rw [(Inbox.waiting_of_pop? hpop).1, List.length_cons]
    exact ⟨hspent, Nat.succ_lt_succ hlt⟩
  | failed hstatus hpop herr =>
    obtain ⟨o, -, -, -, hstep⟩ := h.step _ _
    rw [hstep] at herr
    cases herr

lemma send (h : it.Over) (budget : Nat) (event : E) :
    (∃ told, it.Absorbs told (it.send budget event).1) ∧
      ((it.send budget event).2 = .ok () ∨
        (it.send budget event).2 = .error .budgetSpent ∧ budget ≤ it.inbox.waiting.length) := by
  obtain ⟨first, hfirst⟩ := h.enqueue .external event
  obtain ⟨⟨rest, hrest⟩, -, hresult⟩ := (h.lingers hfirst.toLingers).drain budget
  rw [send_of_running h.status]
  refine ⟨⟨_, hfirst.trans hrest⟩, hresult.imp_right ?_⟩
  rintro ⟨hspent, hlt⟩
  -- at most the event that was sent has come to those that waited
  have hwaiting := (enqueue_adds it .external event).waiting
  have hlength := congrArg List.length hwaiting
  have hone := List.length_filterMap_le accepted?
    [((Output.send event : Output E O).report .external it.inbox.accepting : Occurrence S C E O)]
  rw [List.length_append] at hlength
  simp only [List.length_singleton] at hone
  exact ⟨hspent, by omega⟩

lemma processNext (h : it.Over) (budget : Nat) :
    (∃ told, it.Absorbs told (it.processNext budget).1) ∧
      ((it.processNext budget).2 = .waiting ∨ (it.processNext budget).2 = .settled it.snapshot ∨
        (it.processNext budget).2 = .failed .budgetSpent ∧ budget < it.inbox.waiting.length) := by
  obtain ⟨⟨told, htold⟩, -, hresult⟩ := h.drain budget
  rw [Interpreter.processNext, if_pos h.status]
  by_cases hempty : it.inbox.queue.isEmpty = true
  · rw [if_pos hempty]
    exact ⟨⟨[], h.refl⟩, .inl rfl⟩
  · rw [if_neg hempty]
    cases hdrain : it.drain budget with
    | mk last result =>
      rw [hdrain] at htold hresult
      rcases hresult with rfl | ⟨rfl, hlt⟩
      · exact ⟨⟨told, htold⟩, .inr (.inl (congrArg Next.settled htold.snapshot))⟩
      · exact ⟨⟨told, htold⟩, .inr (.inr ⟨rfl, hlt⟩)⟩

end Over

/-! ## Visits -/

variable [Label S]

/-- What callers, observers, effects and time may do to a machine short of stopping it. -/
inductive Visit (it : Interpreter S C E K O) : Interpreter S C E K O → Prop
  /-- A caller starts it, again. -/
  | start (budget : Nat) : Visit it (it.start budget).1
  /-- A caller sends an event. -/
  | send (budget : Nat) (event : E) : Visit it (it.send budget event).1
  /-- A caller has the events resolved that wait. -/
  | processNext (budget : Nat) : Visit it (it.processNext budget).1
  /-- Someone sends through an outlet: a caller, or an effect with any number. -/
  | post (origin : Origin) (event : E) : Visit it (it.enqueue origin event)
  /-- An observer comes. -/
  | subscribe (react : Observer S C E O) : Visit it (it.subscribe react).1
  /-- An observer comes, and others send meanwhile. -/
  | subscribeAmid {it' : Interpreter S C E K O} (react : Observer S C E O)
      (hamid : it.Meanwhile (it.subscribe react).1 it') : Visit it it'
  /-- An observer goes. -/
  | unsubscribe (id : Nat) : Visit it (it.unsubscribe id).1
  /-- An event is resolved, and others send meanwhile. -/
  | turnAmid {envelope : Envelope E} {inbox : Inbox E} {it' : Interpreter S C E K O}
      (hpop : it.inbox.pop? = some (envelope, inbox))
      (hamid : (it.receiving envelope inbox).Meanwhile (it.step envelope inbox).1 it') :
      Visit it it'
  /-- Time passes. -/
  | advance (time : Nat) (most : Option Nat) : Visit it (it.advanceTo time most)

/-- Any number of visits. -/
abbrev Visits : Interpreter S C E K O → Interpreter S C E K O → Prop := Relation.ReflTransGen Visit

/-- No call on the machine fails, unless the caller grants it fewer events than wait, and no event
would be accepted. -/
structure Serene (it : Interpreter S C E K O) : Prop where
  start : ∀ budget, it.start budget = (it, .ok it.snapshot)
  send : ∀ budget event, (it.send budget event).2 = .ok () ∨
    (it.send budget event).2 = .error .budgetSpent ∧ budget ≤ it.inbox.waiting.length
  processNext : ∀ budget, (it.processNext budget).2 = .waiting ∨
    (it.processNext budget).2 = .settled it.snapshot ∨
    (it.processNext budget).2 = .failed .budgetSpent ∧ budget < it.inbox.waiting.length
  can : ∀ event, it.can event = false

namespace Over

lemma start (h : it.Over) (budget : Nat) : it.start budget = (it, .ok it.snapshot) := by
  simp only [Interpreter.start, h.status]

lemma serene (h : it.Over) : it.Serene where
  start := h.start
  send budget event := (h.send budget event).2
  processNext budget := (h.processNext budget).2
  can event := by
    have hdeaf : it.definition.accepts it.snapshot event = false :=
      Option.isSome_eq_false_iff.mpr (Option.isNone_iff_eq_none.mpr (h.deaf event))
    rw [Interpreter.can, hdeaf, Bool.and_false]

/-- A machine that is over absorbs every visit. -/
lemma visit (h : it.Over) (hvisit : it.Visit it') : ∃ told, it.Absorbs told it' := by
  cases hvisit with
  | start budget =>
    rw [h.start]
    exact ⟨[], h.refl⟩
  | send budget event => exact (h.send budget event).1
  | processNext budget => exact (h.processNext budget).1
  | post origin event => exact h.enqueue origin event
  | subscribe react => exact h.subscribe (.inl rfl)
  | subscribeAmid react hamid => exact h.subscribe (.inr hamid)
  | unsubscribe id => exact ⟨[], h.absorbs (List.append_nil _).symm (by simp) rfl⟩
  | turnAmid hpop hamid => exact (h.turn hamid).1
  | advance time most => exact h.advanceTo time most

/-- It absorbs any number of them. -/
theorem visits (h : it.Over) (hvisits : it.Visits it') :
    (∃ told, it.Absorbs told it') ∧ it'.Serene := by
  have habsorbs : ∃ told, it.Absorbs told it' := by
    induction hvisits with
    | refl => exact ⟨[], h.refl⟩
    | tail hbefore hvisit ih =>
      obtain ⟨told, htold⟩ := ih
      obtain ⟨more, hmore⟩ := (h.lingers htold.toLingers).visit hvisit
      exact ⟨told ++ more, htold.trans hmore⟩
  obtain ⟨told, htold⟩ := habsorbs
  exact ⟨⟨told, htold⟩, (h.lingers htold.toLingers).serene⟩

end Over

end

/-! ## The start in a final state -/

/-- The machine was started where it stood, which was published once, and then nothing more. -/
structure Opens (it it' : Interpreter S C E K O) : Prop extends it.Lingers it' where
  watched : it'.watched = ⟨it.snapshot, it.watched.version + 1⟩
  journal : ∃ sent after,
    it'.journal = it.journal ++ .started it.state :: (sent ++ .emitted it.snapshot :: after) ∧
      (∀ o ∈ sent, o.isReport = true) ∧ (∀ o ∈ after, o.isVain = true) ∧
      after.filterMap heard? = it.audience.map fun id => (id, it.snapshot)

/-- Nothing more happens than is published. -/
lemma Opens.absorbs (h : it.Opens it') (habsorbs : it'.Absorbs more it'')
    (hnext : it''.nextSubscription = it'.nextSubscription) : it.Opens it'' where
  definition := habsorbs.definition.trans h.definition
  options := habsorbs.options.trans h.options
  snapshot := habsorbs.snapshot.trans h.snapshot
  history := habsorbs.history.trans h.history
  generation := habsorbs.generation.trans h.generation
  warnings := habsorbs.warnings.trans h.warnings
  status := habsorbs.status
  effect := habsorbs.effect
  watched := habsorbs.watched.trans h.watched
  journal := by
    obtain ⟨sent, after, hjournal, hsent, hafter, hheard⟩ := h.journal
    have hvain := List.forall_mem_append.mpr ⟨hafter, habsorbs.isVain⟩
    refine ⟨sent, after ++ more, ?_, hsent, hvain, ?_⟩
    · rw [habsorbs.journal, hjournal]
      simp
    · rw [List.filterMap_append, hheard, habsorbs.heard, replays, hnext, Nat.sub_self]
      exact List.append_nil _

section

variable [DecidableEq S] [Label S] [DecidableEq K] [Kinded E K] {draft : Draft S C E K O}
  {d : Definition S C E K O} {options : Options} {it₀ : Interpreter S C E K O}

omit [DecidableEq K] in
/-- In a final state there is nothing to enter and nothing to take. -/
lemma booting_of_final (heffect : it.definition.effect? it.state = none)
    (hselect : it.definition.selectEventless it.state it.context = none) :
    it.booting = ({ it with status := .running }.log (.started it.state), .ok ()) := by
  let begun : Interpreter S C E K O := { it with status := .running }.log (.started it.state)
  have hlaunch : begun.launch = begun := launch_of_none heffect
  have hrests : begun.definition.selectEventless begun.state begun.context = none := hselect
  show begun.launch.settle = (begun, .ok ())
  rw [hlaunch]
  exact settleWithin_of_none hrests _

omit [DecidableEq K] in
/-- The start in a final state publishes it, and others may send meanwhile. -/
lemma opens_of_meanwhile (hidle : it.effect = none)
    (heffect : it.definition.effect? it.state = none)
    (hselect : it.definition.selectEventless it.state it.context = none)
    (hamid : it.Meanwhile it.booted it') : it.Opens it' := by
  let begun : Interpreter S C E K O := { it with status := .running }.log (.started it.state)
  have hbegun : it.Adds [.started it.state] begun := (Adds.log it rfl rfl).congr rfl rfl rfl rfl
  have hbooted : it.booted = begun.emit := by rw [booted, booting_of_final heffect hselect]
  obtain ⟨-, -, -, hemit, hwatched, -⟩ := emit_spec begun
  rw [hbooted] at hamid
  obtain ⟨first, rest, sent, told, htold, hwoven, hsent, hadds⟩ :=
    hamid.adds (hbegun.trans (emit_adds begun))
  obtain ⟨rfl, rfl⟩ := List.cons.inj htold
  -- what others send comes before the publication or after it
  have hwoven' : Interleaved ([] ++ _ :: _) sent told := hwoven
  obtain ⟨before, after, early, late, rfl, rfl, hbefore, hafter⟩ := hwoven'.split
  rw [List.forall_mem_append] at hsent
  have hjournal := hadds.journal
  obtain ⟨queue, recorded, rfl⟩ := hamid.exists_amid
  refine ⟨⟨hemit.definition, hemit.options, hemit.snapshot, hemit.history, hemit.generation,
    hemit.warnings, hemit.status, hemit.effect.trans hidle⟩, hwatched, before, after, hjournal,
    ?_, ?_, ?_⟩
  · exact hbefore.forall_mem (by simp) hsent.1
  · refine hafter.forall_mem ?_ fun o ho => isVain_of_isReport (hsent.2 o ho)
    intro o ho
    obtain ⟨subscriber, -, ho⟩ := List.mem_flatMap.mp ho
    exact isVain_of_isAside (isAside_of_mem_account o ho)
  · rw [hafter.filterMap_eq fun o ho => heard?_of_not_isNews (isNews_of_isReport (hsent.2 o ho))]
    exact heard_accounts it.subscribers

/-- A machine that was built is over when it runs in a final state; before the start no effect is
active. -/
lemma Course.over_or_idle (hbuild : draft.build = .ok d) (hfresh : Fresh d options it₀)
    (hcourse : it₀.Course it) (hdone : it.snapshot.done = true) :
    (it.status = .running → it.Over) ∧ it.effect = none ∧
      it.definition.effect? it.state = none ∧
      ∀ context, it.definition.selectEventless it.state context = none := by
  obtain ⟨hsound, -⟩ := Course.sound hfresh hcourse
  have hfinal : d.isFinal it.state = true := by
    have hproper := hsound.proper
    rw [Proper, hsound.definition] at hproper
    rw [← hproper, hdone]
  obtain ⟨hinvokes, halways⟩ := Draft.final_of_build hbuild hfinal
  have hidle : it.effect = none := by
    rw [← Option.not_isSome_iff_eq_none, (Course.household hfresh hcourse).active_iff,
      hsound.definition, Definition.invokes, show d.effect? it.snapshot.state = none from hinvokes]
    simp
  rw [hsound.definition]
  refine ⟨fun hrunning => ⟨hrunning, hidle, ?_⟩, hidle, hinvokes, halways⟩
  intro event
  rw [hsound.definition]
  exact Definition.select_of_isFinal hfinal _ event

/-- **Final states absorb.**  In a final state a running machine that was built stays where it is
whatever visits it: no effect is active and none is started or cleaned up, nothing is recorded or
published, newcomers are shown where it stands and nobody else is shown anything, no call fails, and
no event would be accepted.  A machine that is started in a final state publishes it once, with
whatever has been waiting for the start, and then it is the same with it. -/
theorem final_absorbs (hbuild : draft.build = .ok d) (hfresh : Fresh d options it₀)
    (hcourse : it₀.Course it) (hdone : it.snapshot.done = true) :
    (it.status = .running → ∀ it', it.Visits it' → (∃ told, it.Absorbs told it') ∧ it'.Serene) ∧
    (it.status = .notStarted →
      (∀ budget, (it.start budget).2 = .ok it.snapshot ∨
        (it.start budget).2 = .error .budgetSpent ∧ budget < it.booted.inbox.waiting.length) ∧
      ∀ it₁, (it.Meanwhile it.booted it₁ ∨ ∃ budget, it₁ = (it.start budget).1) →
        it.Opens it₁ ∧
          ∀ it', it₁.Visits it' → (∃ told, it₁.Absorbs told it') ∧ it'.Serene) := by
  obtain ⟨hover, hidle, heffect, halways⟩ := Course.over_or_idle hbuild hfresh hcourse hdone
  refine ⟨fun hrunning it' hvisits => (hover hrunning).visits hvisits, fun hstatus => ?_⟩
  -- what is started is over, as it runs in the same final state
  have hstarts {it₁ : Interpreter S C E K O} (hamid : it.Meanwhile it.booted it₁) :
      it.Opens it₁ ∧ it₁.Over := by
    have hopens := opens_of_meanwhile hidle heffect (halways _) hamid
    have hcourse₁ : it₀.Course it₁ := hcourse.tail (.bootAmid hstatus hamid)
    have hdone₁ : it₁.snapshot.done = true := by rw [hopens.snapshot, hdone]
    exact ⟨hopens, (Course.over_or_idle hbuild hfresh hcourse₁ hdone₁).1 hopens.status⟩
  obtain ⟨hopens, hbooted⟩ := hstarts (booted_meanwhile it)
  have hbooting : it.booting.2 = .ok () := by rw [booting_of_final heffect (halways _)]
  constructor
  · intro budget
    obtain ⟨⟨told, habsorbs⟩, -, hresult⟩ := hbooted.drain budget
    rw [start_of_ok hstatus hbooting]
    rcases hresult with hok | ⟨hspent, hlt⟩
    · rw [hok, habsorbs.snapshot, hopens.snapshot]
      exact .inl rfl
    · rw [hspent]
      exact .inr ⟨rfl, hlt⟩
  · rintro it₁ (hamid | ⟨budget, rfl⟩)
    · obtain ⟨hopens₁, hover₁⟩ := hstarts hamid
      exact ⟨hopens₁, fun it' => hover₁.visits⟩
    · obtain ⟨⟨told, habsorbs⟩, hnext, -⟩ := hbooted.drain budget
      rw [start_of_ok hstatus hbooting]
      exact ⟨hopens.absorbs habsorbs hnext,
        fun it' => (hbooted.lingers habsorbs.toLingers).visits⟩

end

end Interpreter

namespace Lamp

open Interpreter

/-- A lamp that lights once and for all, although every press is to turn it off. -/
def fuse : Draft State Int64 Event Event Unit where
  id := "fuse"
  initial := .off
  context := 0
  states :=
    [{ state := .off, isFinal := false, on := [(.press, counting (some .on))] },
      { state := .on, isFinal := true }]
  shared := [(.press, counting (some .off))]

/-- The fuse that has lit. -/
def lit : Interpreter State Int64 Event Event Unit :=
  (((Interpreter.new fuse.compile).start 1).1.send 9 .press).1

/-- The fuse that goes on from where it has lit, and was pressed before its start. -/
def relit : Interpreter State Int64 Event Event Unit :=
  ((placed fuse.compile {} lit.snapshot lit.history).send 9 .press).1

end Lamp

open Lamp in
/-- The fuse that has lit stays as it is, and the one that goes on from there says so once. -/
theorem Interpreter.final_absorbs_lamp :
    ((lit.send 9 .press).1.snapshot = ⟨.on, 1, true⟩ ∧ (lit.send 9 .press).1.Serene) ∧
      relit.inbox.waiting = [⟨.press, .external⟩] ∧ relit.Opens (relit.start 9).1 ∧
        (relit.start 9).1.Serene := by
  have hbuild : fuse.build = .ok fuse.compile := rfl
  have hlit : (Interpreter.new fuse.compile).Course lit :=
    (Course.start _ 1).trans (Course.send ((Interpreter.new fuse.compile).start 1).1 9 .press)
  have hvalid : (lit.checkpoint "fuse").validate fuse.compile = .ok () := rfl
  have hresume := resume_of_validate hvalid {}
  have hrelit : (placed fuse.compile {} lit.snapshot lit.history).Course relit :=
    Course.send _ 9 Event.press
  obtain ⟨hruns, -⟩ := final_absorbs hbuild (.new 0 true) hlit rfl
  obtain ⟨-, hstarts⟩ := final_absorbs hbuild (.resumed 0 true hresume) hrelit rfl
  obtain ⟨⟨told, habsorbs⟩, hserene⟩ := hruns rfl _ (.single (.send 9 .press))
  obtain ⟨-, hstarted⟩ := hstarts rfl
  obtain ⟨hopens, hvisited⟩ := hstarted (relit.start 9).1 (.inr ⟨9, rfl⟩)
  exact ⟨⟨habsorbs.snapshot.trans rfl, hserene⟩, rfl, hopens, (hvisited _ .refl).2⟩

end Macrostep
