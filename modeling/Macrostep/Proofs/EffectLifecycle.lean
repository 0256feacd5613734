/-
# The life of effects

The factory of an effect is called when its state is entered, and the cleanup of its handle when the
state is left or when everything ends.  The journal tells of both calls, and behind each of them it
tells what the factory or the cleanup did and how it ended (`Definition.entrance`,
`Handle.parting`).  Taking a transition with a target tells what its actions do, how the active
effect is cleaned up, that the target was entered, and how the effect of the target is attempted,
and nothing else (`Interpreter.take_adds`).  The first start tells of the attempt in the state at
hand; the stop and the drop tell of one cleanup, behind an inbox that accepts nothing any more.

That factories and cleanups are called nowhere else is said by a tracer.  If every factory hands its
outlet out `m` times and every cleanup `n` times, then the numbers under which effects hand outlets
out are those of the attempts, `m` times each, and those of the cleanups, `n` times each
(`Interpreter.Course.tracing`).

Together with the grammar of journals this is the life of effects over every course, up to the stop
or the drop (`Interpreter.effect_lifecycle`).
-/
import Macrostep.Proofs.EffectFailures

namespace Macrostep

open Occurrence

variable {S C E K O : Type}

/-! ## What factories and cleanups tell -/

/-- What the handle of the effect number `g` tells when it is stopped: what its cleanup does, and
the failure of the cleanup if it fails, told as `failed` says.  Without a cleanup it tells
nothing. -/
def Handle.parting (handle : Handle E O) (g : Nat) (accepting : Bool)
    (failed : EffectError → Occurrence S C E O) : List (Occurrence S C E O) :=
  handle.cleanup.elim [] fun run =>
    (run accepting).outputs.map (·.report (.effect g) accepting) ++
      (run accepting).failure.toList.map fun reason => failed (.cleanupFailed handle.id reason)

/-- What is told when the effect of a state is attempted under the number `g`: that its factory is
called, what the factory does, and what it gives back. -/
def Definition.entrance [DecidableEq S] (d : Definition S C E K O) (accepting timers : Bool)
    (g : Nat) (state : S) (context : C) : List (Occurrence S C E O) :=
  (d.effect? state).elim [] fun effect =>
    let startup := effect.launch ⟨⟨.effect g, accepting⟩, timers⟩ context
    .launching state context g :: (startup.outputs.map (·.report (.effect g) accepting) ++
      [match startup.result with
        | .ok _ => .launched effect.id g
        | .error error => .launchFailed error])

namespace Interpreter

variable {it it' it₀ : Interpreter S C E K O} {told more : List (Occurrence S C E O)}

/-- What is told when the active effect is cleaned up, if there is one; `failed` tells its failure
in its name. -/
def parting (it : Interpreter S C E K O) (accepting : Bool)
    (failed : String → EffectError → Occurrence S C E O) : List (Occurrence S C E O) :=
  it.effect.elim [] fun active =>
    .cleaned active.generation ::
      active.handle.parting active.generation accepting (failed active.handle.id)

/-- What taking a transition tells. -/
def passage [DecidableEq S] (it : Interpreter S C E K O) (t : Transition S C E O)
    (event : Option E) : List (Occurrence S C E O) :=
  let accepting := it.inbox.accepting
  let applied := Action.applyAll (some it.outlet) event t.actions it.context
  applied.2.map (·.report .external accepting) ++
    t.target.elim [] fun target =>
      it.parting accepting (fun _ => .cleanupFailed) ++ .transitioned it.state target event ::
        it.definition.entrance accepting it.timers (it.generation + 1) target applied.1

/-- What stopping the active effect does. -/
def cleanupDeeds (it : Interpreter S C E K O) (accepting : Bool) : List (Occurrence S C E O) :=
  it.effect.elim [] fun active =>
    .cleaned active.generation :: (active.handle.ending accepting).outputs.map
      (·.report (.effect active.generation) accepting)

/-- What is told of a cleanup is what stopping the effect does, and how that fails. -/
lemma parting_eq (it : Interpreter S C E K O) (accepting : Bool)
    (failed : String → EffectError → Occurrence S C E O) :
    it.parting accepting failed = it.cleanupDeeds accepting ++ (it.complaint? accepting).toList.map
      (failed ((it.effect.map (·.handle.id)).getD "")) := by
  unfold parting cleanupDeeds complaint?
  cases it.effect with
  | none => rfl
  | some active =>
    simp only [Option.elim_some, Option.bind_some, Handle.parting, Handle.failure?, Handle.ending]
    cases active.handle.cleanup with
    | none => rfl
    | some run =>
      simp only [Option.elim_some]
      cases (run accepting).failure <;> simp

/-- What a release tells before anyone says how it failed. -/
lemma release_adds (it : Interpreter S C E K O) :
    it.Adds (it.cleanupDeeds it.inbox.accepting) it.release.1 := by
  unfold cleanupDeeds
  cases hactive : it.effect with
  | none =>
    rw [release_of_none hactive]
    exact Adds.refl it
  | some active =>
    let cleaned : Interpreter S C E K O :=
      { it with effect := none }.log (.cleaned active.generation)
    have hcleaned : it.Adds [.cleaned active.generation] cleaned :=
      (Adds.log it rfl rfl).congr rfl rfl rfl rfl
    rw [release_of_some hactive]
    exact hcleaned.trans (performAll_adds cleaned (.effect active.generation) _)

/-- On the way out of a state the active effect is cleaned up. -/
lemma leave_adds (it : Interpreter S C E K O) :
    it.Adds (it.parting it.inbox.accepting fun _ => .cleanupFailed) it.leave := by
  have hreleased := release_adds it
  rw [parting_eq, ← release_snd]
  unfold leave
  generalize it.release = r at hreleased ⊢
  obtain ⟨last, failure⟩ := r
  cases failure with
  | none => simpa using hreleased
  | some error => exact hreleased.trans ((Adds.log last rfl rfl).congr rfl rfl rfl rfl)

/-- A drop cleans the active effect up behind an inbox that is gone, and tells a failure in the name
of the effect. -/
lemma journal_drop (it : Interpreter S C E K O) :
    it.drop.journal = it.journal ++ it.parting false .cleanupFailedLate := by
  let gone : Interpreter S C E K O := { it with inbox := it.inbox.discard, subscribers := [] }
  have hreleased : gone.release.1.journal = it.journal ++ it.cleanupDeeds false :=
    (release_adds gone).journal
  have hcomplaint : gone.release.2 = it.complaint? false := release_snd gone
  rw [parting_eq, ← hcomplaint, ← List.append_assoc, ← hreleased]
  cases hfailure : gone.release.2 with
  | none =>
    have hdrop : it.drop = gone.release.1 := by
      simp only [drop]
      rw [show gone.release = (gone.release.1, none) from Prod.ext rfl hfailure]
    rw [hdrop]
    exact (List.append_nil _).symm
  | some error =>
    have hdrop : it.drop = gone.release.1.log
        (.cleanupFailedLate ((it.effect.map (·.handle.id)).getD "") error) := by
      simp only [drop]
      rw [show gone.release = (gone.release.1, some error) from Prod.ext rfl hfailure]
    rw [hdrop]
    exact journal_log ..

/-- The first stop cleans the active effect up behind a closed inbox. -/
lemma journal_stop_eq_parting (h : it.status ≠ .stopped) :
    it.stop.1.journal =
      it.journal ++ it.parting false (fun _ => .cleanupFailed) ++ [.stopped it.state] := by
  rw [journal_stop h, lastWords, ← List.append_assoc, parting_eq]
  rfl

variable [DecidableEq S]

/-- A launch attempts the effect of the current state. -/
lemma launch_adds (it : Interpreter S C E K O) :
    it.Adds (it.definition.entrance it.inbox.accepting it.timers (it.generation + 1) it.state
      it.context) it.launch := by
  unfold Definition.entrance
  cases heffect : it.definition.effect? it.state with
  | none =>
    rw [launch_of_none heffect]
    exact Adds.refl it
  | some effect =>
    have hattempting :
        it.Adds [.launching it.state it.context (it.generation + 1)] it.attempting :=
      (Adds.log it rfl rfl).congr rfl rfl rfl rfl
    have hperformed := hattempting.trans
      (performAll_adds it.attempting (.effect (it.generation + 1)) (startup effect it).outputs)
    rw [launch_of_some heffect]
    refine hperformed.trans ?_
    generalize it.attempting.performAll _ (startup effect it).outputs = performed
    simp only [startup, Effect.start]
    cases (effect.launch _ it.context).result with
    | ok handle => exact (Adds.log performed rfl rfl).congr rfl rfl rfl rfl
    | error error => exact (Adds.log performed rfl rfl).congr rfl rfl rfl rfl

/-- What a transition tells. -/
theorem take_adds [Kinded E K] (it : Interpreter S C E K O) (t : Transition S C E O)
    (event : Option E) : it.Adds (it.passage t event) (it.take t event) := by
  unfold take passage
  generalize Action.applyAll (some it.outlet) event t.actions it.context = applied
  obtain ⟨context, outputs⟩ := applied
  have hperformed := performAll_adds it .external outputs
  obtain ⟨inbox, recorded, hframe⟩ := performAll_frame it .external outputs
  dsimp only
  cases t.target with
  | none =>
    rw [Option.elim_none, List.append_nil]
    exact hperformed.congr rfl rfl rfl rfl
  | some target =>
    rw [Option.elim_some]
    refine hperformed.trans ?_
    rw [hframe] at hperformed ⊢
    let ready : Interpreter S C E K O := { it with inbox, recorded }
    let arrived : Interpreter S C E K O :=
      { ready.leave.enter target event with
        snapshot := ⟨target, context, (ready.leave.enter target event).definition.isFinal target⟩ }
    obtain ⟨left, hleave, -⟩ := leave_spec ready
    have hleft := leave_adds ready
    have hstate : ready.leave.state = it.state := congrArg Snapshot.state hleave.stays.snapshot
    have harrived : ready.Adds (ready.parting ready.inbox.accepting (fun _ => .cleanupFailed) ++
        [.transitioned it.state target event]) arrived := by
      rw [← hstate]
      exact (hleft.trans (enter_adds ready.leave target event)).congr rfl rfl rfl rfl
    -- what the effect of the target is told is as it was before the transition
    have hkept : ready.Kept arrived := hleave.stays.toKept.trans (enter_kept ..)
    have hgeneration : arrived.generation = it.generation :=
      (congrArg Interpreter.generation (enter_eq ..)).trans hleave.generation_eq
    have hready : ready.inbox.accepting = it.inbox.accepting := by
      rw [Inbox.accepting, hperformed.reception, Inbox.accepting]
    have haccepting : arrived.inbox.accepting = it.inbox.accepting := by
      rw [Inbox.accepting, harrived.reception, ← hready, Inbox.accepting]
    have hlaunched := harrived.trans (launch_adds arrived)
    rw [hkept.definition, hkept.timers, hgeneration, haccepting, hready, List.append_assoc]
      at hlaunched
    exact hlaunched

end Interpreter

/-! ## A tracer -/

/-- The number under which an effect hands its outlet out. -/
def Occurrence.lender? : Occurrence S C E O → Option Nat
  | lent (.effect g) => some g
  | _ => none

/-- The numbers under which outlets are handed out on a call, if every factory does so `m` times and
every cleanup `n` times. -/
def Occurrence.loans (m n : Nat) : Occurrence S C E O → List Nat
  | launching _ _ g => List.replicate m g
  | cleaned g => List.replicate n g
  | _ => []

/-- How often outputs hand the outlet out. -/
def Output.shares : List (Output E O) → Nat
  | [] => 0
  | share :: outputs => shares outputs + 1
  | _ :: outputs => shares outputs

/-- The cleanup of the handle is still to run, and it hands its outlet out `n` times. -/
def Handle.Traced (n : Nat) (handle : Handle E O) : Prop :=
  ∃ run, handle.cleanup = some run ∧ ∀ accepting, Output.shares (run accepting).outputs = n

/-- Every factory hands its outlet out `m` times, and every cleanup `n` times. -/
def Definition.Traced [DecidableEq S] (m n : Nat) (d : Definition S C E K O) : Prop :=
  ∀ state effect, d.effect? state = some effect → ∀ surroundings context,
    Output.shares (effect.launch surroundings context).outputs = m ∧
      ∀ handle, (effect.launch surroundings context).result = .ok handle → handle.Traced n

/-- The outlets that effects hand out are those of the calls that are told, each in its turn. -/
def Traces (m n : Nat) (told : List (Occurrence S C E O)) : Prop :=
  told.filterMap lender? = told.flatMap (loans m n)

section

variable {m n : Nat} {told more : List (Occurrence S C E O)}

lemma Traces.append (h : Traces m n told) (h' : Traces m n more) : Traces m n (told ++ more) := by
  rw [Traces, List.filterMap_append, List.flatMap_append, h, h']

lemma loans_of_not_isTelling {o : Occurrence S C E O} (h : o.isTelling = false) :
    o.loans m n = [] := by
  cases o <;> first | rfl | cases h

/-- Nobody is called, and nothing is handed out. -/
lemma traces_of_quiet (htelling : ∀ o ∈ told, o.isTelling = false)
    (hlender : ∀ o ∈ told, o.lender? = none) : Traces m n told := by
  rw [Traces, List.filterMap_eq_nil_iff.mpr hlender, eq_comm, List.flatMap_eq_nil_iff]
  exact fun o ho => loans_of_not_isTelling (htelling o ho)

/-- Sending hands no outlet out. -/
lemma lender?_report_send (origin : Origin) (accepting : Bool) (event : E) :
    ((Output.send event : Output E O).report origin accepting : Occurrence S C E O).lender? =
      none := by
  cases accepting <;> rfl

lemma lender?_report_external (accepting : Bool) (output : Output E O) :
    (output.report .external accepting : Occurrence S C E O).lender? = none := by
  cases output with
  | send event => exact lender?_report_send .external accepting event
  | note content => rfl
  | share => rfl

/-- Observers hand outlets out in nobody's name. -/
lemma lender?_of_mem_account {subscriber : Subscriber S C E O} {accepting : Bool}
    {s : Snapshot S C} : ∀ o ∈ subscriber.account accepting s, o.lender? = none :=
  List.forall_mem_cons.mpr
    ⟨rfl, List.forall_mem_map.mpr fun output _ => lender?_report_external accepting output⟩

/-- A call that hands its outlet out as often as it should. -/
lemma traces_call {call : Occurrence S C E O} {g : Nat} {outputs : List (Output E O)}
    (hcall : call.lender? = none)
    (hloans : call.loans m n = List.replicate (Output.shares outputs) g) (accepting : Bool) : Traces m n (call :: outputs.map (·.report (.effect g) accepting)) := by
  have hlent : (outputs.map fun output =>
      (output.report (.effect g) accepting : Occurrence S C E O)).filterMap lender? =
        List.replicate (Output.shares outputs) g := by
    clear hloans
    induction outputs with
    | nil => rfl
    | cons output outputs ih =>
      cases output with
      | send event => cases accepting <;> exact ih
      | note content => exact ih
      | share => exact congrArg (g :: ·) ih
  have hquiet : (outputs.map fun output =>
      (output.report (.effect g) accepting : Occurrence S C E O)).flatMap (loans m n) = [] := by
    rw [List.flatMap_eq_nil_iff]
    exact fun o ho =>
      loans_of_not_isTelling (isTelling_of_isReport (Interpreter.forall_isReport_map _ _ _ o ho))
  rw [Traces, List.filterMap_cons_none hcall, hlent, List.flatMap_cons, hquiet, List.append_nil,
    hloans]

end

namespace Interpreter

variable {it it' it'' it₀ : Interpreter S C E K O} {told : List (Occurrence S C E O)} {m n : Nat}
  {d : Definition S C E K O}

/-- A cleanup that is told about is one that runs, and hands its outlet out. -/
lemma traces_parting (hactive : ∀ g handle, it.running? = some (g, handle) → handle.Traced n)
    (accepting : Bool) {failed : String → EffectError → Occurrence S C E O}
    (htelling : ∀ id error, (failed id error).isTelling = false)
    (hlender : ∀ id error, (failed id error).lender? = none) :
    Traces m n (it.parting accepting failed) := by
  unfold parting
  cases heffect : it.effect with
  | none => rfl
  | some active =>
    obtain ⟨run, hcleanup, hshares⟩ := hactive active.generation active.handle
      (by rw [running?, heffect]; rfl)
    have hfailed : Traces m n ((run accepting).failure.toList.map fun reason =>
        failed active.handle.id (.cleanupFailed active.handle.id reason)) :=
      traces_of_quiet (List.forall_mem_map.mpr fun _ _ => htelling _ _)
        (List.forall_mem_map.mpr fun _ _ => hlender _ _)
    have hloans : (.cleaned active.generation : Occurrence S C E O).loans m n =
        List.replicate (Output.shares (run accepting).outputs) active.generation := by
      rw [hshares]
      rfl
    rw [Option.elim_some, Handle.parting, hcleanup]
    exact (traces_call rfl hloans accepting).append hfailed

variable [DecidableEq S]

/-- An attempt that is told about is one whose factory is called. -/
lemma traces_entrance (h : d.Traced m n) (accepting timers : Bool) (g : Nat) (state : S)
    (context : C) : Traces m n (d.entrance accepting timers g state context) := by
  unfold Definition.entrance
  cases heffect : d.effect? state with
  | none => rfl
  | some effect =>
    obtain ⟨hshares, -⟩ := h state effect heffect ⟨⟨.effect g, accepting⟩, timers⟩ context
    have hloans : (.launching state context g : Occurrence S C E O).loans m n =
        List.replicate (Output.shares (effect.launch ⟨⟨.effect g, accepting⟩, timers⟩
          context).outputs) g := by
      rw [hshares]
      rfl
    refine (traces_call rfl hloans accepting).append ?_
    cases (effect.launch ⟨⟨.effect g, accepting⟩, timers⟩ context).result <;> rfl

/-- The effects of the machine are traced, the active one among them, and so is what is told. -/
structure Tracing (d : Definition S C E K O) (m n : Nat) (it : Interpreter S C E K O) : Prop where
  definition : it.definition = d
  traced : d.Traced m n
  active : ∀ g handle, it.running? = some (g, handle) → handle.Traced n
  traces : Traces m n it.journal

namespace Tracing

/-- No effect is called, and none hands its outlet out. -/
lemma spares (h : Tracing d m n it) (hspares : it.Spares it')
    (hjournal : it'.journal = it.journal ++ told) (hlender : ∀ o ∈ told, o.lender? = none) :
    Tracing d m n it' where
  definition := hspares.definition.trans h.definition
  traced := h.traced
  active := by
    rw [hspares.running]
    exact h.active
  traces := by
    obtain ⟨told', hjournal', htelling⟩ := hspares.journal
    obtain rfl := List.append_cancel_left (hjournal.symm.trans hjournal')
    rw [hjournal]
    exact h.traces.append (traces_of_quiet htelling hlender)

lemma log (h : Tracing d m n it) {o : Occurrence S C E O} (htelling : o.isTelling = false)
    (hlender : o.lender? = none) : Tracing d m n (it.log o) :=
  h.spares (.log it htelling) (journal_log it o) (by simpa using hlender)

/-- User code that is no effect hands outlets out in nobody's name. -/
lemma performAll (h : Tracing d m n it) (outputs : List (Output E O)) :
    Tracing d m n (it.performAll .external outputs) :=
  h.spares (.performAll ..) (performAll_adds it .external outputs).journal
    (List.forall_mem_map.mpr fun output _ => lender?_report_external _ output)

lemma enqueue (h : Tracing d m n it) (origin : Origin) (event : E) :
    Tracing d m n (it.enqueue origin event) :=
  h.spares (.enqueue ..) (enqueue_adds it origin event).journal
    (List.forall_mem_singleton.mpr (lender?_report_send origin _ event))

lemma emit (h : Tracing d m n it) : Tracing d m n it.emit := by
  refine h.spares (.emit it) (emit_adds it).journal (List.forall_mem_cons.mpr ⟨rfl, ?_⟩)
  intro o ho
  obtain ⟨subscriber, -, ho⟩ := List.mem_flatMap.mp ho
  exact lender?_of_mem_account o ho

lemma subscribe (h : Tracing d m n it) (react : Observer S C E O) :
    Tracing d m n (it.subscribe react).1 := by
  by_cases hrunning : it.status = .running
  · obtain ⟨inbox, recorded, -, hadds⟩ := subscribe_of_running hrunning react
    exact h.spares (.subscribe it react) hadds.journal lender?_of_mem_account
  · rw [subscribe_of_not_running hrunning]
    exact ⟨h.definition, h.traced, h.active, h.traces⟩

lemma advanceTo (h : Tracing d m n it) (time : Nat) (most : Option Nat) :
    Tracing d m n (it.advanceTo time most) := by
  have hspares := Spares.advanceTo it time most
  rcases it.advanceTo_cases time most with hadvance | ⟨active, events, due, -, hadvance⟩
  · rw [hadvance]
    exact ⟨h.definition, h.traced, h.active, h.traces⟩
  · have hsends := performAll_adds it (.effect active.generation) (events.map .send)
    refine h.spares hspares (by rw [hadvance]; exact hsends.journal) ?_
    rw [List.map_map, List.forall_mem_map]
    exact fun event _ => lender?_report_send _ _ event

lemma launch (h : Tracing d m n it) : Tracing d m n it.launch := by
  obtain ⟨begun, hlaunch, -⟩ := launch_spec it
  have htraces := traces_entrance h.traced it.inbox.accepting it.timers (it.generation + 1) it.state
    it.context
  refine ⟨hlaunch.stays.definition.trans h.definition, h.traced, ?_, ?_⟩
  · generalize it.launch = it' at hlaunch
    cases hlaunch with
    | quiet hno => exact h.active
    | @success effect surroundings handle due inbox reports recorded heffect hresult hreports =>
      intro g handle' hrunning
      obtain ⟨-, rfl⟩ := Prod.mk.inj (Option.some.inj hrunning)
      obtain ⟨first, hfirst, rfl⟩ := exists_launch_of_start hresult
      exact (h.traced _ effect (h.definition ▸ heffect) surroundings it.context).2 first hfirst
    | failure heffect hresult hreports => exact h.active
  · rw [(launch_adds it).journal, h.definition]
    exact h.traces.append htraces

/-- A state is left and the next one entered. -/
lemma enter [Kinded E K] (h : Tracing d m n it) (target : S) (event : Option E)
    (snapshot : Snapshot S C) : Tracing d m n { it.leave.enter target event with snapshot } := by
  obtain ⟨left, hleave, -⟩ := leave_spec it
  have hleft := (leave_adds it).trans (enter_adds it.leave target event)
  have htraces : Traces m n (it.parting it.inbox.accepting (fun _ => .cleanupFailed) ++
      [.transitioned it.leave.state target event]) :=
    (traces_parting h.active _ (fun _ _ => rfl) fun _ _ => rfl).append rfl
  refine ⟨?_, h.traced, ?_, ?_⟩
  · rw [enter_eq]
    exact hleave.stays.definition.trans h.definition
  · rw [enter_eq]
    intro g handle hrunning
    rw [running?, hleave.effect_eq_none] at hrunning
    cases hrunning
  · rw [show Interpreter.journal { it.leave.enter target event with snapshot } = _ from
      hleft.journal]
    exact h.traces.append htraces

lemma take [Kinded E K] (h : Tracing d m n it) (t : Transition S C E O) (event : Option E) :
    Tracing d m n (it.take t event) := by
  unfold Interpreter.take
  generalize Action.applyAll (some it.outlet) event t.actions it.context = applied
  have hready := h.performAll applied.2
  cases t.target with
  | none => exact ⟨hready.definition, hready.traced, hready.active, hready.traces⟩
  | some target => exact (hready.enter target event _).launch

/-- What others send meanwhile is handed out by nobody. -/
lemma meanwhile {it₁ : Interpreter S C E K O} (h : Tracing d m n it₁)
    (hamid : it.Meanwhile it₁ it') : Tracing d m n it' := by
  obtain ⟨first, rest, sent, rest', hjournal, hjournal', hwoven, hsent, -⟩ := hamid.told
  have hquiet : ∀ o ∈ sent, o.lender? = none ∧ o.loans m n = [] := by
    intro o ho
    obtain ⟨origin, event, rfl⟩ := hsent o ho
    exact ⟨lender?_report_send _ _ event,
      loans_of_not_isTelling (isTelling_of_isReport (isReport_report origin _ _))⟩
  have hwoven' := (hwoven.keep first).after it.journal
  have htraces : Traces m n it'.journal := by
    rw [Traces, hjournal', hwoven'.filterMap_eq fun o ho => (hquiet o ho).1,
      hwoven'.flatMap_eq fun o ho => (hquiet o ho).2, ← hjournal]
    exact h.traces
  obtain ⟨queue, recorded, rfl⟩ := hamid.exists_amid
  exact ⟨h.definition, h.traced, h.active, htraces⟩

lemma stop (h : Tracing d m n it) : Tracing d m n it.stop.1 := by
  by_cases hstopped : it.status = .stopped
  · rwa [stop_of_stopped hstopped]
  have htraces : Traces m n it.stop.1.journal := by
    rw [journal_stop_eq_parting hstopped]
    exact (h.traces.append (traces_parting h.active _ (fun _ _ => rfl) fun _ _ => rfl)).append rfl
  have hstop := stop_eq hstopped
  refine ⟨?_, h.traced, ?_, htraces⟩
  · rw [hstop]
    exact h.definition
  · rw [hstop]
    intro g handle hrunning
    cases hrunning

variable [Label S] [DecidableEq K] [Kinded E K]

omit [DecidableEq K] in
lemma booted (h : Tracing d m n it) : Tracing d m n it.booted := by
  have hrunning : Tracing d m n { it with status := .running } :=
    ⟨h.definition, h.traced, h.active, h.traces⟩
  have hbegun := hrunning.log (o := .started it.state) rfl rfl
  have hbooting : Tracing d m n it.booting.1 :=
    settleWithin_induction hbegun.launch (fun _ t here => here.take t none)
      (fun _ _ here => here.log rfl rfl) _
  exact hbooting.emit

lemma step (h : Tracing d m n it) (envelope : Envelope E) (inbox : Inbox E) :
    Tracing d m n (it.step envelope inbox).1 := by
  have hrest : Tracing d m n { it with inbox } := ⟨h.definition, h.traced, h.active, h.traces⟩
  exact resolve_induction (hrest.log rfl rfl) envelope (fun _ _ here => here.log rfl rfl)
    (fun _ _ here => here.log rfl rfl) (fun _ t event here => here.take t event)
    (fun _ _ here => here.log rfl rfl) fun _ here => here.emit

lemma move (h : Tracing d m n it) (hmove : it.Move it') : Tracing d m n it' := by
  cases hmove with
  | boot hstatus => exact h.booted
  | turn hstatus hpop => exact h.step _ _
  | bootAmid hstatus hamid => exact h.booted.meanwhile hamid
  | turnAmid hstatus hpop hamid => exact (h.step _ _).meanwhile hamid
  | subscribeAmid react hamid => exact (h.subscribe react).meanwhile hamid
  | post origin event => exact h.enqueue origin event
  | startIgnored => exact h.log rfl rfl
  | deferred event => exact h.log rfl rfl
  | dropped event => exact h.log rfl rfl
  | ignored event => exact h.log rfl rfl
  | subscribe react => exact h.subscribe react
  | unsubscribe id => exact ⟨h.definition, h.traced, h.active, h.traces⟩
  | takeWarnings => exact ⟨h.definition, h.traced, h.active, h.traces⟩
  | advance time most => exact h.advanceTo time most
  | halt => exact h.stop

end Tracing

theorem Course.tracing [Label S] [DecidableEq K] [Kinded E K] {options : Options}
    (hfresh : Fresh d options it₀) (hcourse : it₀.Course it) (htraced : d.Traced m n) :
    Tracing d m n it := by
  induction hcourse with
  | refl =>
    obtain ⟨now, timers, hplaced⟩ := hfresh.exists_placed
    rw [hplaced]
    exact ⟨rfl, htraced, fun g handle h => (by cases h), rfl⟩
  | tail hcourse hmove ih => exact ih.move hmove

/-! ## What is read in it -/

section

variable {A : Type} {read : Occurrence S C E O → Option A}

omit [DecidableEq S] in
lemma filterMap_reports (hread : ∀ o, o.isReport = true → read o = none) (origin : Origin)
    (accepting : Bool) (outputs : List (Output E O)) :
    (outputs.map (·.report origin accepting)).filterMap read = [] :=
  filterMap_eq_nil_of_class hread (forall_isReport_map origin accepting outputs)

omit [DecidableEq S] in
/-- A reading that passes over user code and failures finds the cleanup alone. -/
lemma filterMap_parting (it : Interpreter S C E K O) (accepting : Bool)
    {failed : String → EffectError → Occurrence S C E O}
    (hread : ∀ o, o.isReport = true → read o = none)
    (hfailed : ∀ id error, read (failed id error) = none) :
    (it.parting accepting failed).filterMap read =
      it.effect.toList.filterMap fun active => read (.cleaned active.generation) := by
  rw [parting_eq, List.filterMap_append, cleanupDeeds, List.filterMap_eq_nil_iff.mpr
    (List.forall_mem_map.mpr fun error _ => hfailed _ error), List.append_nil]
  cases it.effect with
  | none => rfl
  | some active =>
    rw [Option.elim_some, Option.toList_some, List.filterMap_cons, List.filterMap_cons,
      filterMap_reports hread]
    rfl

/-- A reading that passes over user code and over how attempts end finds the attempt alone. -/
lemma filterMap_entrance (d : Definition S C E K O) (accepting timers : Bool) (g : Nat) (state : S)
    (context : C) (hread : ∀ o, o.isReport = true → read o = none)
    (hlaunched : ∀ id g, read (.launched id g) = none)
    (hfailed : ∀ error, read (.launchFailed error) = none) :
    (d.entrance accepting timers g state context).filterMap read =
      if (d.effect? state).isSome then (read (.launching state context g)).toList else [] := by
  unfold Definition.entrance
  cases d.effect? state with
  | none => rfl
  | some effect =>
    rw [Option.elim_some, List.filterMap_cons, List.filterMap_append,
      filterMap_reports hread]
    have hend : [match (effect.launch ⟨⟨.effect g, accepting⟩, timers⟩ context).result with
        | .ok _ => .launched effect.id g
        | .error error => .launchFailed error].filterMap read = [] := by
      cases (effect.launch ⟨⟨.effect g, accepting⟩, timers⟩ context).result with
      | ok handle => simp [hlaunched]
      | error error => simp [hfailed]
    rw [hend]
    cases read (.launching state context g) <;> rfl

end

/-- The attempts and the cleanups that a transition tells. -/
lemma read_passage (it : Interpreter S C E K O) (t : Transition S C E O) (event : Option E) :
    (it.passage t event).filterMap attempt? =
        t.target.elim [] (fun target => if (it.definition.effect? target).isSome then
          [(target, Action.assigned event t.actions it.context, it.generation + 1)] else []) ∧
      (it.passage t event).filterMap cleanup? =
        t.target.elim [] fun _ => it.effect.toList.map ActiveEffect.generation := by
  have hattempt (o : Occurrence S C E O) (ho : o.isReport = true) : o.attempt? = none :=
    attempt?_of_isLife (isLife_of_isReport ho)
  have hcleanup (o : Occurrence S C E O) (ho : o.isReport = true) : o.cleanup? = none :=
    cleanup?_of_isLife (isLife_of_isReport ho)
  unfold passage
  rw [List.filterMap_append, List.filterMap_append,
    filterMap_reports hattempt, filterMap_reports hcleanup]
  cases t.target with
  | none => exact ⟨rfl, rfl⟩
  | some target =>
    simp only [Option.elim_some, List.nil_append]
    rw [List.filterMap_append, List.filterMap_append,
      List.filterMap_cons_none rfl, List.filterMap_cons_none rfl,
      filterMap_parting it _ hattempt fun _ _ => rfl,
      filterMap_parting it _ hcleanup fun _ _ => rfl,
      filterMap_entrance _ _ _ _ _ _ hattempt (fun _ _ => rfl) fun _ => rfl,
      filterMap_entrance _ _ _ _ _ _ hcleanup (fun _ _ => rfl) fun _ => rfl, Action.applyAll_fst]
    cases it.effect <;> cases it.definition.effect? target <;> exact ⟨rfl, rfl⟩

/-- After the drop every effect that was started has been cleaned up. -/
lemma Household.cleanups_drop (h : it.Household) :
    it.drop.journal.filterMap cleanup? = it.drop.journal.filterMap success? := by
  have hcleanup (o : Occurrence S C E O) (ho : o.isReport = true) : o.cleanup? = none :=
    cleanup?_of_isLife (isLife_of_isReport ho)
  have hsuccess (o : Occurrence S C E O) (ho : o.isReport = true) : o.success? = none :=
    success?_of_isLife (isLife_of_isReport ho)
  rw [journal_drop, List.filterMap_append, List.filterMap_append,
    filterMap_parting it _ hcleanup fun _ _ => rfl, filterMap_parting it _ hsuccess fun _ _ => rfl,
    ← h.cleanups]
  cases it.effect with
  | none => exact (List.append_nil _).symm
  | some active => exact (List.append_nil _).symm

/-! ## The laws -/

variable [Label S] [DecidableEq K] [Kinded E K] {options : Options}

omit [DecidableEq K] in
/-- The start of a machine attempts the effect of the state at hand before anything else. -/
lemma journal_booted (it : Interpreter S C E K O) : ∃ more, it.booted.journal = it.journal ++
    (.started it.state :: it.definition.entrance it.inbox.accepting it.timers (it.generation + 1)
      it.state it.context) ++ more := by
  let begun : Interpreter S C E K O := { it with status := .running }.log (.started it.state)
  have hbegun : it.Adds [.started it.state] begun := (Adds.log it rfl rfl).congr rfl rfl rfl rfl
  have hlaunched := hbegun.trans (launch_adds begun)
  obtain ⟨rest, hrest⟩ := settle_adds begun.launch
  have hbooted : it.booted.journal = _ := (hrest.trans (emit_adds it.booting.1)).journal
  rw [hbooted, hlaunched.journal]
  exact ⟨_, rfl⟩

/-- Whatever the first start does later on. -/
lemma journal_start (hfresh : Fresh d options it₀) (hcourse : it₀.Course it)
    (hstatus : it.status = .notStarted) (budget : Nat) :
    ∃ more, (it.start budget).1.journal = it.journal ++
      (.started it.state :: d.entrance it.inbox.accepting it.timers (it.generation + 1) it.state
        it.context) ++ more := by
  have hbooted := (Course.sound hfresh (hcourse.tail (.boot hstatus))).1
  obtain ⟨first, hfirst⟩ := journal_booted it
  have hlater : it.booted.Course (it.start budget).1 := by
    cases hbooting : it.booting.2 with
    | ok u =>
      rw [start_of_ok hstatus hbooting]
      exact Course.drain _ _
    | error error => rw [start_of_error hstatus hbooting]
  obtain ⟨later, hfollows⟩ := hlater.follows hbooted.proper
  rw [(Course.sound hfresh hcourse).1.definition] at hfirst
  exact ⟨first ++ later, by rw [hfollows.journal, hfirst, List.append_assoc]⟩

/-- What the life of effects is on the way from `it₀` to `it`. -/
structure EffectLife (d : Definition S C E K O) (limit : Nat) (it₀ it : Interpreter S C E K O) :
    Prop where
  /-- An effect is attempted in each position entered whose state invokes one, with the context of
  that position, under the numbers 1, 2, 3 and so on. -/
  attempts : it.journal.filterMap attempt? =
    numbered 0 ((d.entered limit it₀.snapshot (inputsOf it.journal)).filter d.invokes)
  numbers : (it.journal.filterMap attempt?).map (·.2.2) = List.range' 1 it.generation
  /-- Every attempt succeeds or fails. -/
  outcomes : it.generation =
    (it.journal.filterMap success?).length + (it.journal.filterMap failure?).length
  /-- No effect is started twice. -/
  once : (it.journal.filterMap success?).Nodup
  /-- Every effect that was started has been cleaned up, in that order, except for the active
  one. -/
  cleanups : it.journal.filterMap cleanup? ++ it.effect.toList.map ActiveEffect.generation =
    it.journal.filterMap success?
  /-- When a start is attempted, its state has just been entered, and every effect that was started
  before has been cleaned up. -/
  before : ∀ past state context g rest, it.journal = past ++ .launching state context g :: rest →
    Lived d past (.due state) (g - 1) ∧ past.filterMap cleanup? = past.filterMap success?
  /-- An attempt that failed leads to no cleanup. -/
  failed : ∀ past error rest, it.journal = past ++ .launchFailed error :: rest →
    ∃ g, Lived d past .starting g ∧ g ∉ it.journal.filterMap cleanup?
  /-- An effect is active exactly while the interpreter runs in a state that invokes one and the
  last attempt succeeded. -/
  active_iff : it.effect.isSome = true ↔ it.status = .running ∧ d.invokes it.snapshot = true ∧
    it.generation ∈ it.journal.filterMap success?
  /-- The active effect is the one of the current state.  Its handle is the one that the factory gave
  back for the context with which the state was entered, and it bears the number of the last
  attempt. -/
  active : ∀ active, it.effect = some active → active.generation = it.generation ∧
    ∃ effect surroundings context handle, d.effect? it.state = some effect ∧
      (it.state, context, it.generation) ∈ it.journal.filterMap attempt? ∧
      (effect.launch surroundings context).result = .ok handle ∧
      active.handle = { handle with id := effect.id }
  /-- The factories and the cleanups that the journal tells about were called, once each, and no
  others. -/
  traces : ∀ m n, d.Traced m n → Traces m n it.journal ∧ Traces m n it.drop.journal
  /-- The first start attempts the effect of the state at hand. -/
  start : it.status = .notStarted → ∀ budget, ∃ more, (it.start budget).1.journal = it.journal ++
    (.started it.state :: d.entrance it.inbox.accepting it.timers (it.generation + 1) it.state
      it.context) ++ more
  /-- A stop cleans the active effect up behind a closed inbox. -/
  stop : it.status ≠ .stopped → it.stop.1.journal =
    it.journal ++ it.parting false (fun _ => .cleanupFailed) ++ [.stopped it.state]
  /-- So does a drop. -/
  drop : it.drop.journal = it.journal ++ it.parting false .cleanupFailedLate
  /-- After the stop and after the drop every effect that was started has been cleaned up. -/
  stopped : it.status = .stopped →
    it.journal.filterMap cleanup? = it.journal.filterMap success?
  dropped : it.drop.journal.filterMap cleanup? = it.drop.journal.filterMap success?

/-- What taking a transition does to effects. -/
structure EffectChange (it : Interpreter S C E K O) (t : Transition S C E O) (event : Option E)
    (it' : Interpreter S C E K O) : Prop where
  /-- The cleanup of the active effect and the factory of the next one are called, and no others. -/
  journal : it'.journal = it.journal ++ it.passage t event
  /-- A transition without a target leaves effects alone. -/
  inside : t.target = none → it'.effect = it.effect ∧ it'.generation = it.generation ∧
    (it.passage t event).filterMap attempt? = [] ∧ (it.passage t event).filterMap cleanup? = []
  /-- A transition with a target cleans up the active effect, and then attempts the one of the
  target with the context that the actions have left. -/
  across : ∀ target, t.target = some target →
    (it.passage t event).filterMap attempt? = (if (it.definition.effect? target).isSome then
      [(target, Action.assigned event t.actions it.context, it.generation + 1)] else []) ∧
    (it.passage t event).filterMap cleanup? = it.effect.toList.map ActiveEffect.generation

omit [Label S] [DecidableEq K] in
theorem take_effectChange (it : Interpreter S C E K O) (t : Transition S C E O)
    (event : Option E) : EffectChange it t event (it.take t event) := by
  obtain ⟨hattempts, hcleanups⟩ := it.read_passage t event
  refine ⟨(take_adds it t event).journal, ?_, ?_⟩
  · intro htarget
    rw [htarget] at hattempts hcleanups
    obtain ⟨told, htaking, -⟩ := take_spec it t event
    generalize it.take t event = it' at htaking
    cases htaking with
    | inside => exact ⟨rfl, rfl, hattempts, hcleanups⟩
    | across htarget' => simp [htarget] at htarget'
  · intro target htarget
    rw [htarget] at hattempts hcleanups
    exact ⟨hattempts, hcleanups⟩

/-- **The life of effects.**  Over every course the attempts, successes, failures and cleanups of
the journal are in order, and what they tell about has happened: behind each attempt stands what
the factory did, behind each cleanup what the cleanup of that handle did, and no factory and no
cleanup was called besides. -/
theorem effect_lifecycle (hfresh : Fresh d options it₀) (hcourse : it₀.Course it) :
    EffectLife d options.maxEventlessSteps it₀ it ∧
      ∀ (here : Interpreter S C E K O) t event, EffectChange here t event (here.take t event) := by
  obtain ⟨hsound, horderly⟩ := Course.sound hfresh hcourse
  have hhouse := Course.household hfresh hcourse
  obtain ⟨hattempts, hcount⟩ := horderly.attempts
  have hcleanups := hhouse.cleanups
  obtain ⟨tenancy, hlived, hstanding⟩ := id hhouse
  rw [hsound.definition] at hlived
  have hiff := hhouse.active_iff
  rw [hsound.definition] at hiff
  refine ⟨⟨hattempts, ?_, ?_, hlived.nodup_successes, hcleanups, ?_, ?_, hiff, ?_, ?_,
    journal_start hfresh hcourse, journal_stop_eq_parting, journal_drop it, ?_,
    hhouse.cleanups_drop⟩, take_effectChange⟩
  · rw [hattempts, map_number_numbered, hcount]
    simp
  · have houtcomes := hlived.outcomes
    rwa [hstanding.pending, Nat.add_zero] at houtcomes
  · intro past state context g rest hjournal
    obtain ⟨m, hbefore, rfl⟩ := hlived.before_attempt hjournal
    exact ⟨hbefore, (List.append_nil _).symm.trans hbefore.cleanups⟩
  · intro past error rest hjournal
    obtain ⟨g, hpast, -, -, hnot⟩ := hlived.after_failure hjournal
    refine ⟨g, hpast, fun hmem => hnot ?_⟩
    rw [← hcleanups]
    exact List.mem_append_left _ hmem
  · intro active heffect
    obtain ⟨hnumber, effect, surroundings, context, hinvoked, hattempt, hstart⟩ :=
      hstanding.of_effect heffect
    obtain ⟨handle, hlaunch, hhandle⟩ := exists_launch_of_start hstart
    rw [hsound.definition] at hinvoked
    exact ⟨hnumber, effect, surroundings, context, handle, hinvoked, hattempt, hlaunch, hhandle⟩
  · intro m n htraced
    have htracing := Course.tracing hfresh hcourse htraced
    refine ⟨htracing.traces, ?_⟩
    rw [Traces, journal_drop]
    exact htracing.traces.append
      (traces_parting htracing.active false (fun _ _ => rfl) fun _ _ => rfl)
  · intro hstopped
    have hnone : it.effect = none := by
      rw [← Option.not_isSome_iff_eq_none]
      intro hsome
      have hrunning := (hiff.mp hsome).1
      rw [hstopped] at hrunning
      cases hrunning
    rw [hnone] at hcleanups
    simpa using hcleanups

end Interpreter

namespace Lamp

/-- An effect that hands its outlet out and sends a beat, once when it starts and once more in its
cleanup, which fails. -/
def flame : Effect Nat Event Unit where
  id := "flame"
  launch _ _ :=
    { outputs := [.share, .send .beat]
      result := .ok
        { cleanup := some fun _ => { outputs := [.share, .send .beat], failure := "stuck" } } }

/-- A lamp that burns while it is on. -/
def torch : Definition State Nat Event Event Unit :=
  { lamp with
    nodes :=
      [(.off, { on := ⟨[(.press, [moving (some .on)])]⟩ }),
        (.on, { on := ⟨[(.press, [moving (some .off)])]⟩, effect := flame })] }

lemma torch_traced : torch.Traced 1 1 := by
  intro state effect heffect surroundings context
  obtain rfl : effect = flame := by cases state <;> cases heffect; rfl
  refine ⟨rfl, fun handle hhandle => ?_⟩
  obtain rfl := Except.ok.inj hhandle
  exact ⟨_, rfl, fun _ => rfl⟩

/-- The torch that was pressed, and burns. -/
def burning : Interpreter State Nat Event Event Unit :=
  (((Interpreter.new torch).start 1).1.send 9 .press).1

end Lamp

open Lamp in
/-- The torch that burns has started one effect.  When it is pressed again the cleanup hands the
outlet out, sends its beat and fails; when it is dropped instead the beat is refused. -/
theorem Interpreter.effect_lifecycle_lamp :
    burning.journal.filterMap attempt? = [(.on, 1, 1)] ∧ burning.effect.isSome = true ∧
      (burning.take (moving (some .off)) (some .press)).journal = burning.journal ++
        [.cleaned 1, .lent (.effect 1), .accepted ⟨.beat, .effect 1⟩,
          .cleanupFailed (.cleanupFailed "flame" "stuck"), .transitioned .on .off (some .press)] ∧
      burning.drop.journal = burning.journal ++
        [.cleaned 1, .lent (.effect 1), .refused ⟨.beat, .effect 1⟩,
          .cleanupFailedLate "flame" (.cleanupFailed "flame" "stuck")] ∧
      burning.journal.filterMap lender? = [1] ∧ burning.drop.journal.filterMap lender? = [1, 1] := by
  have hcourse : (Interpreter.new torch).Course burning :=
    (Course.start _ 1).trans (Course.send ((Interpreter.new torch).start 1).1 9 .press)
  obtain ⟨hlife, hchange⟩ := effect_lifecycle (.new 0 true) hcourse
  obtain ⟨hjournal, hdrop⟩ := hlife.traces 1 1 torch_traced
  exact ⟨hlife.attempts, hlife.active_iff.mpr ⟨rfl, rfl, by decide⟩, (hchange _ _ _).journal,
    hlife.drop, hjournal, hdrop⟩

end Macrostep
