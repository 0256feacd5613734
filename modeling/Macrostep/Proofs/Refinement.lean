/-
# Running interpreters refine their definition

What a running interpreter shows of an event is what its definition says alone.  The position after
the event, the one that is published and the one that is watched all are the end of the steps that
the definition computes without queueing anything, starting any effect or telling anybody; and the
event fails exactly if those steps were cut at the limit while another one was enabled.  An event
that leads to no transition changes nothing.  Over a whole course the published snapshots are
therefore a function of the definition, the limit, the first position and the inputs.
-/
import Macrostep.Proofs.JournalOrder

namespace Macrostep

open Occurrence

open Leg (endOf)

namespace Interpreter

variable {S C E K O : Type} [DecidableEq S] [Label S] [DecidableEq K] [Kinded E K]
  {it it' it₀ : Interpreter S C E K O} {d : Definition S C E K O} {options : Options}

/-- The envelope is admitted: it comes from a caller, or from the effect that is active. -/
def Admits (it : Interpreter S C E K O) (envelope : Envelope E) : Prop :=
  envelope.origin = .external ∨
    ∃ active, it.effect = some active ∧ envelope.origin = .effect active.generation

omit [DecidableEq S] [Label S] [DecidableEq K] [Kinded E K] in
/-- Whatever is not admitted is stale. -/
lemma staleGeneration?_eq_none_iff (it : Interpreter S C E K O) (envelope : Envelope E) :
    it.staleGeneration? envelope = none ↔ it.Admits envelope := by
  unfold staleGeneration? Admits
  cases horigin : envelope.origin with
  | external => simp
  | effect generation =>
    cases it.effect with
    | none => simp
    | some active => simp [eq_comm]

/-- An event without a transition changes nothing. -/
lemma resolve_of_transition_none {envelope : Envelope E}
    (haccept : it.staleGeneration? envelope = none)
    (hnone : it.definition.transition it.snapshot envelope.event = none) :
    it.resolve envelope = (it.log (.unhandled it.state envelope.event), .ok ()) := by
  have hselect : it.definition.select it.state it.context envelope.event = none :=
    Option.map_eq_none_iff.mp hnone
  simp only [resolve, haccept, hselect]

/-- What an event with a transition shows. -/
structure Shown (it : Interpreter S C E K O) (s : Snapshot S C) (it' : Interpreter S C E K O) :
    Prop where
  snapshot : it'.snapshot = s
  watched : it'.watched.value = s
  subscribers : it'.subscribers = it.subscribers.map fun o => { o with seen := s :: o.seen }
  emitted : ∃ told, it'.journal = it.journal ++ told ∧ told.filterMap emitted? = [s]

lemma resolve_of_transition {envelope : Envelope E} {s₀ : Snapshot S C} (hproper : it.Proper)
    (haccept : it.staleGeneration? envelope = none)
    (hsome : it.definition.transition it.snapshot envelope.event = some s₀) :
    let s := endOf s₀ (it.definition.chain it.options.maxEventlessSteps s₀)
    it.Shown s (it.resolve envelope).1 ∧ (it.resolve envelope).2 = it.verdict s := by
  obtain ⟨t, hrespond⟩ :=
    Definition.respond_eq_of_transition hsome it.options.maxEventlessSteps
  obtain ⟨told, hresolving, hadds⟩ := resolve_spec hproper envelope
  generalize it.resolve envelope = r at hresolving hadds ⊢
  cases hresolving with
  | stale hstale =>
    rw [haccept] at hstale
    cases hstale
  | unhandled hfresh hnone =>
    rw [answer, hrespond] at hnone
    cases hnone
  | @handled legs work shown it' hfresh hlegs hsome' hstretch hproper' hshown =>
    rw [answer, hrespond] at hlegs
    have hend : it'.snapshot =
        endOf s₀ (it.definition.chain it.options.maxEventlessSteps s₀) := by
      rw [hstretch.snapshot, ← hlegs, Leg.endOf_cons]
    obtain ⟨-, -, -, hemit, hwatched, hsubscribers⟩ := emit_spec it'
    rw [← hend]
    refine ⟨⟨hemit.snapshot, congrArg Watched.value hwatched, ?_, _, hadds.journal, ?_⟩, rfl⟩
    · rw [hsubscribers, hstretch.subscribers]
    · -- neither the work nor what observers do publishes anything
      have hwork : work.filterMap emitted? = [] :=
        filterMap_eq_nil_of_class (fun _ => emitted?_of_isWork) hstretch.effort.isWork
      have hrest : shown.filterMap emitted? = [] :=
        filterMap_eq_nil_of_class (fun _ => emitted?_of_isAside) hshown
      rw [List.filterMap_append, hwork, List.nil_append,
        List.filterMap_cons_some (f := emitted?) rfl, hrest]

/-- Running refines the definition. -/
theorem resolve_refines (hfresh : Fresh d options it₀) (hcourse : it₀.Course it)
    (envelope : Envelope E) (hadmits : it.Admits envelope) :
    (d.transition it.snapshot envelope.event = none →
      it.resolve envelope = (it.log (.unhandled it.state envelope.event), .ok ())) ∧
    (∀ s₀, d.transition it.snapshot envelope.event = some s₀ →
      let legs := d.chain options.maxEventlessSteps s₀
      let s := endOf s₀ legs
      it.Shown s (it.resolve envelope).1 ∧
        ((it.resolve envelope).2 = .ok () ∧ d.rests s = true ∨
          (it.resolve envelope).2 =
              .error (.nonTerminatingChain (Label.name s.state) options.maxEventlessSteps) ∧
            legs.length = options.maxEventlessSteps ∧ d.rests s = false)) ∧
    it.journal.filterMap emitted? =
      d.published options.maxEventlessSteps it₀.snapshot (inputsOf it.journal) ∧
    it.snapshot = d.reached options.maxEventlessSteps it₀.snapshot (inputsOf it.journal) := by
  obtain ⟨hsound, horderly⟩ := Course.sound hfresh hcourse
  have haccept := (it.staleGeneration?_eq_none_iff envelope).mpr hadmits
  refine ⟨?_, ?_, horderly.emitted, horderly.reached⟩
  · intro hnone
    exact resolve_of_transition_none haccept (by rwa [hsound.definition])
  · intro s₀ hsome
    have hresolve := resolve_of_transition hsound.proper haccept (by rwa [hsound.definition])
    rw [hsound.definition, hsound.options] at hresolve
    refine ⟨hresolve.1, ?_⟩
    rw [hresolve.2, verdict, hsound.definition, hsound.options]
    cases hrests : d.rests (endOf s₀ (d.chain options.maxEventlessSteps s₀)) with
    | true => exact .inl ⟨rfl, rfl⟩
    | false => exact .inr ⟨rfl, d.length_chain_of_not_rests hrests, rfl⟩

open Lamp in
/-- The lamp is pressed: it warms up, turns on and says so once. -/
theorem resolve_refines_lamp :
    ∃ it', (started.resolve ⟨.press, .external⟩) = (it', .ok ()) ∧ it'.snapshot = ⟨.on, 2, false⟩ ∧
      started.journal.filterMap emitted? = [⟨.off, 0, false⟩] := by
  obtain ⟨-, hsome, hemitted, -⟩ :=
    resolve_refines new_fresh started_course ⟨.press, .external⟩ (.inl rfl)
  obtain ⟨hshown, ⟨hok, -⟩ | ⟨-, -, hrests⟩⟩ := hsome _ rfl
  · exact ⟨_, Prod.ext rfl hok, hshown.snapshot, hemitted⟩
  · cases hrests

end Interpreter

end Macrostep
