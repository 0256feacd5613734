/-
# Interpreters in lockstep

What a machine does on an event does not depend on the effects that its states invoke: without them
(`Definition.bare`) it selects the same transitions and has the same final states.

Two interpreters may therefore go on side by side although their effects differ.  A relation that is
kept when the same small thing is done to both (`Interpreter.Lockstep`) is kept when both take a
transition, come to rest, resolve an event, empty their inboxes or are sent an event, and these
moves end in the same way.
-/
import Macrostep.Proofs.Course

namespace Macrostep

open Occurrence

/-! ## Machines without their effects -/

section

variable {S C E K O : Type}

/-- The node of a state that invokes nothing. -/
def Node.bare (node : Node S C E K O) : Node S C E K O := { node with effect := none }

/-- The machine whose states invoke nothing. -/
def Definition.bare (d : Definition S C E K O) : Definition S C E K O :=
  { d with nodes := d.nodes.map fun (state, node) => (state, node.bare) }

namespace Definition

variable [DecidableEq S] {d d' : Definition S C E K O}

lemma node?_bare (d : Definition S C E K O) (state : S) :
    d.bare.node? state = (d.node? state).map Node.bare := by
  simp only [node?, bare, List.find?_map, Option.map_map]
  rfl

lemma isFinal_bare (d : Definition S C E K O) (state : S) :
    d.bare.isFinal state = d.isFinal state := by
  rw [isFinal, isFinal, node?_bare, Option.any_map]
  rfl

lemma selectEventless_bare (d : Definition S C E K O) (state : S) (context : C) :
    d.bare.selectEventless state context = d.selectEventless state context := by
  rw [selectEventless, selectEventless, node?_bare]
  cases d.node? state with
  | none => rfl
  | some node => rfl

lemma select_bare [DecidableEq K] [Kinded E K] (d : Definition S C E K O) (state : S) (context : C)
    (event : E) : d.bare.select state context event = d.select state context event := by
  rw [select, select, node?_bare]
  cases d.node? state with
  | none => rfl
  | some node => rfl

/-! Machines that differ in their effects alone agree. -/

omit [DecidableEq S] in
lemma id_of_bare_eq (h : d'.bare = d.bare) : d'.id = d.id := by
  have hid := congrArg Definition.id h
  exact hid

lemma isFinal_of_bare_eq (h : d'.bare = d.bare) (state : S) :
    d'.isFinal state = d.isFinal state := by
  rw [← isFinal_bare d', h, isFinal_bare]

lemma selectEventless_of_bare_eq (h : d'.bare = d.bare) (state : S) (context : C) :
    d'.selectEventless state context = d.selectEventless state context := by
  rw [← selectEventless_bare d', h, selectEventless_bare]

lemma select_of_bare_eq [DecidableEq K] [Kinded E K] (h : d'.bare = d.bare) (state : S)
    (context : C) (event : E) : d'.select state context event = d.select state context event := by
  rw [← select_bare d', h, select_bare]

end Definition

end

namespace Interpreter

variable {S C E K O : Type} {it it' : Interpreter S C E K O}

/-! ## Side by side -/

/-- Two interpreters are in the same position of machines that differ in their effects alone, with
the same events waiting, none of which an effect has sent. -/
structure Abreast (it it' : Interpreter S C E K O) : Prop where
  machine : it'.definition.bare = it.definition.bare
  options : it'.options = it.options
  status : it'.status = it.status
  snapshot : it'.snapshot = it.snapshot
  waiting : it'.inbox.waiting = it.inbox.waiting
  accepting : it'.inbox.accepting = it.inbox.accepting
  external : ∀ envelope ∈ it.inbox.waiting, envelope.origin = .external

/-- A relation of interpreters that is kept when the same is written down in both, and when the same
event is queued. -/
structure Receptive (R : Interpreter S C E K O → Interpreter S C E K O → Prop) : Prop where
  log ⦃it it' : Interpreter S C E K O⦄ (h : R it it') (o : Occurrence S C E O) :
    R (it.log o) (it'.log o)
  enqueue ⦃it it' : Interpreter S C E K O⦄ (h : R it it') (event : E) :
    R (it.enqueue .external event) (it'.enqueue .external event)

/-- It is kept when both run the same user code, which is that of no effect. -/
lemma Receptive.performAll {R : Interpreter S C E K O → Interpreter S C E K O → Prop}
    (hR : Receptive R) (h : R it it') (outputs : List (Output E O)) :
    R (it.performAll .external outputs) (it'.performAll .external outputs) := by
  induction outputs generalizing it it' with
  | nil => exact h
  | cons output outputs ih =>
    cases output with
    | send event => exact ih (hR.enqueue h event)
    | note content => exact ih (hR.log h (.noted content))
    | share => exact ih (hR.log h (.lent .external))

variable [DecidableEq S] [Kinded E K]

/-- A relation of interpreters side by side that is kept when the same is done to both. -/
structure Lockstep (R : Interpreter S C E K O → Interpreter S C E K O → Prop) : Prop
    extends Receptive R where
  abreast ⦃it it' : Interpreter S C E K O⦄ (h : R it it') : it.Abreast it'
  /-- The next event is taken. -/
  taken ⦃it it' : Interpreter S C E K O⦄ (h : R it it') {envelope : Envelope E}
    {inbox inbox' : Inbox E} (hpop : it.inbox.pop? = some (envelope, inbox))
    (hpop' : it'.inbox.pop? = some (envelope, inbox')) :
    R { it with inbox } { it' with inbox := inbox' }
  /-- The position becomes another one. -/
  moved ⦃it it' : Interpreter S C E K O⦄ (h : R it it') (s : Snapshot S C) :
    R { it with snapshot := s } { it' with snapshot := s }
  /-- The way to a state is recorded. -/
  enter ⦃it it' : Interpreter S C E K O⦄ (h : R it it') (target : S) (event : Option E) :
    R (it.enter target event) (it'.enter target event)
  /-- The active effects are stopped. -/
  leave ⦃it it' : Interpreter S C E K O⦄ (h : R it it') : R it.leave it'.leave
  /-- The effects of the state are started. -/
  launch ⦃it it' : Interpreter S C E K O⦄ (h : R it it') : R it.launch it'.launch
  /-- The position is published. -/
  emit ⦃it it' : Interpreter S C E K O⦄ (h : R it it') : R it.emit it'.emit

namespace Lockstep

variable {R : Interpreter S C E K O → Interpreter S C E K O → Prop}

/-! ### Transitions -/

/-- Both take a transition. -/
theorem take (hR : Lockstep R) (h : R it it') (t : Transition S C E O) (event : Option E) :
    R (it.take t event) (it'.take t event) := by
  have habreast := hR.abreast h
  -- the actions are told the same, so they do the same
  have houtlet : it'.outlet = it.outlet := by rw [outlet, outlet, habreast.accepting]
  have happly : Action.applyAll (some it'.outlet) event t.actions it'.context =
      Action.applyAll (some it.outlet) event t.actions it.context := by
    rw [houtlet, show it'.context = it.context from congrArg Snapshot.context habreast.snapshot]
  obtain ⟨⟨context, outputs⟩, hrun⟩ : ∃ run,
      Action.applyAll (some it.outlet) event t.actions it.context = run := ⟨_, rfl⟩
  have hperformed := hR.performAll h outputs
  unfold Interpreter.take
  rw [happly, hrun]
  dsimp only
  cases t.target with
  | none =>
    dsimp only
    rw [(hR.abreast hperformed).snapshot]
    exact hR.moved hperformed _
  | some target =>
    -- the effects on the way may differ, but whether the target is final does not depend on them
    have hentered := hR.enter (hR.leave hperformed) target event
    dsimp only
    rw [Definition.isFinal_of_bare_eq (hR.abreast hentered).machine]
    exact hR.launch (hR.moved hentered _)

/-- What both take next without an event is the same. -/
lemma selectEventless_eq (hR : Lockstep R) (h : R it it') :
    it'.definition.selectEventless it'.state it'.context =
      it.definition.selectEventless it.state it.context := by
  have habreast := hR.abreast h
  rw [Definition.selectEventless_of_bare_eq habreast.machine, state, state, context, context,
    habreast.snapshot]

/-- Both come to rest, or both give up. -/
theorem settleWithin [Label S] (hR : Lockstep R) (h : R it it') (steps : Nat) :
    (it'.settleWithin steps).2 = (it.settleWithin steps).2 ∧
      R (it.settleWithin steps).1 (it'.settleWithin steps).1 := by
  induction steps generalizing it it' with
  | zero =>
    have hselect := hR.selectEventless_eq h
    cases hsel : it.definition.selectEventless it.state it.context with
    | none =>
      rw [settleWithin_of_none hsel, settleWithin_of_none (hselect.trans hsel)]
      exact ⟨rfl, h⟩
    | some t =>
      rw [settleWithin_zero_of_some hsel, settleWithin_zero_of_some (hselect.trans hsel),
        (hR.abreast h).options, state, (hR.abreast h).snapshot]
      exact ⟨rfl, hR.log h _⟩
  | succ steps ih =>
    have hselect := hR.selectEventless_eq h
    cases hsel : it.definition.selectEventless it.state it.context with
    | none =>
      rw [settleWithin_of_none hsel, settleWithin_of_none (hselect.trans hsel)]
      exact ⟨rfl, h⟩
    | some t =>
      rw [settleWithin_succ_of_some hsel, settleWithin_succ_of_some (hselect.trans hsel)]
      exact ih (hR.take h t none)

lemma settle [Label S] (hR : Lockstep R) (h : R it it') :
    it'.settle.2 = it.settle.2 ∧ R it.settle.1 it'.settle.1 := by
  rw [Interpreter.settle, Interpreter.settle, (hR.abreast h).options]
  exact hR.settleWithin h _

/-! ### Events -/

variable [Label S] [DecidableEq K]

/-- Both resolve an event that no effect has sent. -/
theorem resolve (hR : Lockstep R) (h : R it it') {envelope : Envelope E}
    (hexternal : envelope.origin = .external) :
    (it'.resolve envelope).2 = (it.resolve envelope).2 ∧
      R (it.resolve envelope).1 (it'.resolve envelope).1 := by
  have hfresh (here : Interpreter S C E K O) : here.staleGeneration? envelope = none := by
    rw [staleGeneration?, hexternal]
  have habreast := hR.abreast h
  have hstate : it'.state = it.state := congrArg Snapshot.state habreast.snapshot
  have hcontext : it'.context = it.context := congrArg Snapshot.context habreast.snapshot
  unfold Interpreter.resolve
  rw [hfresh, hfresh, hstate, hcontext, Definition.select_of_bare_eq habreast.machine]
  dsimp only
  cases it.definition.select it.state it.context envelope.event with
  | none => exact ⟨rfl, hR.log h _⟩
  | some t =>
    obtain ⟨hresult, hsettled⟩ := hR.settle (hR.take h t (some envelope.event))
    exact ⟨hresult, hR.emit hsettled⟩

/-- Both resolve the next event. -/
lemma step (hR : Lockstep R) (h : R it it') {envelope : Envelope E} {inbox : Inbox E}
    (hpop : it.inbox.pop? = some (envelope, inbox)) :
    ∃ inbox', it'.inbox.pop? = some (envelope, inbox') ∧
      (it'.step envelope inbox').2 = (it.step envelope inbox).2 ∧
      R (it.step envelope inbox).1 (it'.step envelope inbox').1 := by
  have habreast := hR.abreast h
  have hwaiting := (Inbox.waiting_of_pop? hpop).1
  obtain ⟨inbox', hpop', -⟩ := pop?_of_waiting (habreast.waiting.trans hwaiting)
  have hexternal := habreast.external
  rw [hwaiting, List.forall_mem_cons] at hexternal
  exact ⟨inbox', hpop', hR.resolve (hR.log (hR.taken h hpop hpop') (.taken envelope)) hexternal.1⟩

/-- Both empty their inboxes. -/
theorem drain (hR : Lockstep R) (h : R it it') (budget : Nat) :
    (it'.drain budget).2 = (it.drain budget).2 ∧ R (it.drain budget).1 (it'.drain budget).1 := by
  have hspec := drain_spec it budget
  generalize it.drain budget = r at hspec ⊢
  -- the induction is on how one inbox is emptied, and the other one keeps pace
  induction hspec generalizing it' with
  | @done here budget hdone =>
    rw [drain_of_done (by rwa [(hR.abreast h).status, (hR.abreast h).waiting])]
    exact ⟨rfl, h⟩
  | @spent here hstatus hwaiting =>
    rw [← (hR.abreast h).waiting] at hwaiting
    obtain ⟨envelope, behind, hsome⟩ := List.exists_cons_of_ne_nil hwaiting
    obtain ⟨inbox', hpop', -⟩ := pop?_of_waiting hsome
    rw [drain_zero_of_pop ((hR.abreast h).status.trans hstatus) hpop']
    exact ⟨rfl, h⟩
  | @next here budget envelope inbox r hstatus hpop hok hrest ih =>
    obtain ⟨inbox', hpop', hresult, hstep⟩ := hR.step h hpop
    rw [drain_succ_of_ok ((hR.abreast h).status.trans hstatus) hpop' (hresult.trans hok)]
    exact ih hstep
  | @failed here budget envelope inbox error hstatus hpop herr =>
    obtain ⟨inbox', hpop', hresult, hstep⟩ := hR.step h hpop
    rw [drain_succ_of_error ((hR.abreast h).status.trans hstatus) hpop' (hresult.trans herr)]
    exact ⟨rfl, hstep⟩

/-- Both are sent an event. -/
theorem send (hR : Lockstep R) (h : R it it') (budget : Nat) (event : E) :
    (it'.send budget event).2 = (it.send budget event).2 ∧
      R (it.send budget event).1 (it'.send budget event).1 := by
  unfold Interpreter.send
  rw [(hR.abreast h).status, (hR.abreast h).options]
  cases it.status with
  | running => exact hR.drain (hR.enqueue h event) budget
  | notStarted =>
    dsimp only
    split
    · exact ⟨rfl, hR.enqueue (hR.log h _) event⟩
    · exact ⟨rfl, hR.log h _⟩
  | stopped => exact ⟨rfl, hR.log h _⟩

end Lockstep

end Interpreter

end Macrostep
