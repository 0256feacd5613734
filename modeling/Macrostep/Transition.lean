/-
# Transitions and nodes

A transition has a guard, actions and a target; without a target it only changes the context.  A
node holds what a machine does in one state: candidates per kind of event, in the order in which
they were declared, eventless transitions, and the effect that lives as long as the state.
-/
import Macrostep.Action
import Macrostep.Effect.Basic

namespace Macrostep

/-- A transition of a finished machine. -/
structure Transition (S C E O : Type) where
  /-- The test that must hold; a transition without one is always enabled. -/
  guard : Option (Guard C E)
  /-- What is done when it is taken. -/
  actions : List (Action C E O)
  /-- The state that is entered; `none` for a transition that stays and leaves effects alone. -/
  target : Option S

namespace Transition

variable {S C E O : Type}

/-- Whether a transition may be taken. -/
def isEnabled (t : Transition S C E O) (context : C) (event : Option E) : Bool :=
  match t.guard with
  | some guard => guard context event
  | none => true

/-- Whether a transition has no target. -/
def isInternal (t : Transition S C E O) : Bool := t.target.isNone

/-- Whether a transition has a guard. -/
def isGuarded (t : Transition S C E O) : Bool := t.guard.isSome

end Transition

/-- Transitions by kind of event.  Under one kind they stand in the order in which they were
added. -/
structure EventTable (K T : Type) where
  /-- The kinds, in the order in which each first appeared, and what was added under them. -/
  rows : List (K × List T) := []

namespace EventTable

variable {K T : Type} [DecidableEq K]

/-- What was added under a kind. -/
def candidates (table : EventTable K T) (kind : K) : List T :=
  ((table.rows.find? fun row => row.1 = kind).map Prod.snd).getD []

/-- Adds an entry under a kind, after those that are there. -/
def add (table : EventTable K T) (kind : K) (entry : T) : EventTable K T where
  rows := go table.rows
where
  go : List (K × List T) → List (K × List T)
    | [] => [(kind, [entry])]
    | (k, entries) :: rows =>
      if k = kind then (k, entries ++ [entry]) :: rows else (k, entries) :: go rows

/-- The table of a list of entries. -/
def ofList (entries : List (K × T)) : EventTable K T :=
  entries.foldl (fun table (kind, entry) => table.add kind entry) {}

/-- The kinds under which something was added. -/
def kinds (table : EventTable K T) : List K := table.rows.map Prod.fst

/-- Adding under a kind appends to its candidates and leaves those of other kinds alone. -/
theorem candidates_add (table : EventTable K T) (kind other : K) (entry : T) :
    (table.add kind entry).candidates other =
      table.candidates other ++ if kind = other then [entry] else [] := by
  obtain ⟨rows⟩ := table
  simp only [add, candidates]
  induction rows with
  | nil => by_cases h : kind = other <;> simp [add.go, h]
  | cons row rows ih =>
    obtain ⟨k, entries⟩ := row
    rw [add.go]
    by_cases hk : k = kind
    · subst hk
      by_cases ho : k = other <;> simp [ho]
    · rw [if_neg hk]
      by_cases ho : k = other
      · have : kind ≠ other := fun e => hk (ho.trans e.symm)
        simp [ho, this]
      · simpa [List.find?_cons, ho] using ih

/-- The candidates of a kind are the entries of that kind, in order. -/
theorem candidates_ofList (entries : List (K × T)) (kind : K) :
    (ofList entries).candidates kind =
      (entries.filter fun entry => entry.1 = kind).map Prod.snd := by
  suffices h : ∀ table : EventTable K T,
      (entries.foldl (fun table (k, entry) => table.add k entry) table).candidates kind =
        table.candidates kind ++ (entries.filter fun entry => entry.1 = kind).map Prod.snd by
    simpa [ofList, candidates] using h {}
  induction entries with
  | nil => simp
  | cons entry entries ih =>
    intro table
    rw [List.foldl_cons, ih, candidates_add]
    by_cases h : entry.1 = kind <;> simp [h]

end EventTable

/-- What a machine does in one state. -/
structure Node (S C E K O : Type) where
  /-- The transitions that events lead to. -/
  on : EventTable K (Transition S C E O) := {}
  /-- The transitions that need no event. -/
  always : List (Transition S C E O) := []
  /-- The effect that lives as long as the state. -/
  effect : Option (Effect C E O) := none
  /-- Whether the state is final. -/
  isFinal : Bool := false

end Macrostep
