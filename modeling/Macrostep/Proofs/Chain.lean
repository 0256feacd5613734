/-
# Macrosteps of a definition

What a definition alone says about the answer to an event: the transition that the event leads to,
then the eventless transitions that follow it, each with the position that it leads to.  Only
assignments are made here; nothing is queued, no effect is started and nobody is told.  The files
that follow compare running interpreters with these lists.

A list of inputs, where `none` stands for the start, determines where the machine gets to
(`Definition.reached`), the positions that are published (`Definition.published`) and those that are
entered (`Definition.entered`).
-/
import Mathlib.Tactic.Lemma
import Macrostep.Definition

namespace Macrostep

/-- One step of a machine. -/
structure Leg (S C E O : Type) where
  /-- The transition that is taken. -/
  transition : Transition S C E O
  /-- The position that it leads to. -/
  arrival : Snapshot S C

namespace Leg

variable {S C E O : Type}

/-- The position that a step enters; a transition without a target enters none. -/
def entered? (leg : Leg S C E O) : Option (Snapshot S C) :=
  leg.transition.target.map fun _ => leg.arrival

/-- The position after a list of steps that begins at `s`. -/
def endOf (s : Snapshot S C) (legs : List (Leg S C E O)) : Snapshot S C :=
  legs.foldl (fun _ leg => leg.arrival) s

@[simp] lemma endOf_nil (s : Snapshot S C) : endOf s ([] : List (Leg S C E O)) = s := rfl

@[simp] lemma endOf_cons (s : Snapshot S C) (leg : Leg S C E O) (legs : List (Leg S C E O)) :
    endOf s (leg :: legs) = endOf leg.arrival legs := rfl

lemma endOf_append (s : Snapshot S C) (legs more : List (Leg S C E O)) :
    endOf s (legs ++ more) = endOf (endOf s legs) more := by
  simp [endOf, List.foldl_append]

end Leg

namespace Definition

open Leg (endOf)

variable {S C E K O : Type} [DecidableEq S]

/-- Whether a machine rests in a position: no eventless transition is enabled. -/
def rests (d : Definition S C E K O) (s : Snapshot S C) : Bool :=
  (d.selectEventless s.state s.context).isNone

/-- Whether the state of a position invokes an effect. -/
def invokes (d : Definition S C E K O) (s : Snapshot S C) : Bool := (d.effect? s.state).isSome

/-- The eventless steps from a position: each time the first transition that is enabled, until none
is, and at most `limit` of them. -/
def chain (d : Definition S C E K O) : Nat → Snapshot S C → List (Leg S C E O)
  | 0, _ => []
  | limit + 1, s =>
    match d.selectEventless s.state s.context with
    | none => []
    | some t => ⟨t, d.apply t none s⟩ :: d.chain limit (d.apply t none s)

/-- A transition with a target leads to the target. -/
lemma apply_of_target (d : Definition S C E K O) {t : Transition S C E O} {target : S}
    (h : t.target = some target) (event : Option E) (s : Snapshot S C) :
    d.apply t event s =
      ⟨target, Action.assigned event t.actions s.context, d.isFinal target⟩ := by
  simp [apply, h, Action.applyAll_fst]

/-- A transition without a target leads nowhere else. -/
lemma apply_of_no_target (d : Definition S C E K O) {t : Transition S C E O}
    (h : t.target = none) (event : Option E) (s : Snapshot S C) :
    d.apply t event s =
      ⟨s.state, Action.assigned event t.actions s.context, d.isFinal s.state⟩ := by
  simp [apply, h, Action.applyAll_fst]

/-! ## The end of a chain -/

lemma rests_of_selectEventless {d : Definition S C E K O} {s : Snapshot S C}
    (h : d.selectEventless s.state s.context = none) : d.rests s = true := by
  simp [rests, h]

lemma not_rests_of_selectEventless {d : Definition S C E K O} {s : Snapshot S C}
    {t : Transition S C E O} (h : d.selectEventless s.state s.context = some t) :
    d.rests s = false := by
  simp [rests, h]

/-- A chain that ends where the machine does not rest has used its whole limit. -/
lemma length_chain_of_not_rests (d : Definition S C E K O) {limit : Nat} {s : Snapshot S C}
    (h : d.rests (endOf s (d.chain limit s)) = false) : (d.chain limit s).length = limit := by
  induction limit generalizing s with
  | zero => rfl
  | succ limit ih =>
    cases hsel : d.selectEventless s.state s.context with
    | none =>
      rw [chain, hsel] at h
      exact absurd (rests_of_selectEventless hsel) (by simpa using h)
    | some t =>
      rw [chain, hsel] at h ⊢
      rw [List.length_cons, ih (by simpa using h)]

/-! ## Answers to inputs -/

variable [DecidableEq K] [Kinded E K]

/-- The steps that answer an input: the transition of the event and the eventless steps behind it,
or no step if the event is not accepted.  The start, which is no event, is answered by eventless
steps alone. -/
def respond (d : Definition S C E K O) (limit : Nat) (s : Snapshot S C) :
    Option E → List (Leg S C E O)
  | none => d.chain limit s
  | some event =>
    match d.select s.state s.context event with
    | none => []
    | some t => ⟨t, d.apply t (some event) s⟩ :: d.chain limit (d.apply t (some event) s)

/-- The position after a list of inputs. -/
def reached (d : Definition S C E K O) (limit : Nat) :
    Snapshot S C → List (Option E) → Snapshot S C
  | s, [] => s
  | s, input :: inputs => d.reached limit (endOf s (d.respond limit s input)) inputs

/-- The positions that are published for a list of inputs: one for the start, and one for every
event that is accepted. -/
def published (d : Definition S C E K O) (limit : Nat) :
    Snapshot S C → List (Option E) → List (Snapshot S C)
  | _, [] => []
  | s, input :: inputs =>
    let legs := d.respond limit s input
    (if input.isNone || !legs.isEmpty then [endOf s legs] else []) ++
      d.published limit (endOf s legs) inputs

/-- The positions that are entered for a list of inputs: the first one at the start, and then the
arrival of every transition with a target. -/
def entered (d : Definition S C E K O) (limit : Nat) :
    Snapshot S C → List (Option E) → List (Snapshot S C)
  | _, [] => []
  | s, input :: inputs =>
    let legs := d.respond limit s input
    (if input.isNone then [s] else []) ++ legs.filterMap Leg.entered? ++
      d.entered limit (endOf s legs) inputs

lemma reached_append (d : Definition S C E K O) (limit : Nat) (s : Snapshot S C)
    (inputs more : List (Option E)) :
    d.reached limit s (inputs ++ more) = d.reached limit (d.reached limit s inputs) more := by
  induction inputs generalizing s with
  | nil => rfl
  | cons input inputs ih => exact ih _

lemma published_append (d : Definition S C E K O) (limit : Nat) (s : Snapshot S C)
    (inputs more : List (Option E)) :
    d.published limit s (inputs ++ more) =
      d.published limit s inputs ++ d.published limit (d.reached limit s inputs) more := by
  induction inputs generalizing s with
  | nil => rfl
  | cons input inputs ih =>
    rw [List.cons_append, published, published, ih, reached]
    exact (List.append_assoc ..).symm

lemma entered_append (d : Definition S C E K O) (limit : Nat) (s : Snapshot S C)
    (inputs more : List (Option E)) :
    d.entered limit s (inputs ++ more) =
      d.entered limit s inputs ++ d.entered limit (d.reached limit s inputs) more := by
  induction inputs generalizing s with
  | nil => rfl
  | cons input inputs ih =>
    rw [List.cons_append, entered, entered, ih, reached]
    exact (List.append_assoc ..).symm

/-- An event is answered by no step exactly if it leads to no transition. -/
lemma respond_some_eq_nil_iff (d : Definition S C E K O) (limit : Nat) (s : Snapshot S C)
    (event : E) :
    d.respond limit s (some event) = [] ↔ d.select s.state s.context event = none := by
  cases hsel : d.select s.state s.context event <;> simp [respond, hsel]

/-- The answer to an event that is accepted begins with the position that one step leads to. -/
lemma respond_eq_of_transition {d : Definition S C E K O} {s s₀ : Snapshot S C} {event : E}
    (h : d.transition s event = some s₀) (limit : Nat) :
    ∃ t, d.respond limit s (some event) = ⟨t, s₀⟩ :: d.chain limit s₀ := by
  obtain ⟨t, ht, rfl⟩ := Option.map_eq_some_iff.mp h
  exact ⟨t, by rw [respond, ht]⟩

end Definition

end Macrostep
