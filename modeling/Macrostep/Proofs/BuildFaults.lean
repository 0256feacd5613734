/-
# Rejected descriptions

A machine is described by a list of clauses: declarations of states with what is asked of them,
shared transitions, and registrations of guards and actions.  A description has faults, each at its
place (`Description.FaultAt`), and the places have an order (`Place.Before`).  None of this speaks
of drafts or of the pass that looks for faults.

The machine is rejected exactly if its description has a fault, and then with all of its faults,
each once for each of its places and in the order of the places
(`Description.build_rejects_faults`).
-/
import Mathlib.Data.List.Nodup
import Macrostep.Draft.Build
import Macrostep.Proofs.Listing

namespace Macrostep

variable {S C E K O : Type}

/-! ## Descriptions -/

/-- What may be asked of a state. -/
inductive StateClause (S C E K O : Type)
  /-- A transition for a kind of event. -/
  | on (kind : K) (t : TransitionDraft S C E O)
  /-- A transition that needs no event. -/
  | always (t : TransitionDraft S C E O)
  /-- An effect that lives as long as the state. -/
  | invoke (effect : Effect C E O)
  /-- That the state be final. -/
  | final

namespace StateClause

/-- The transition for a kind of event that is asked for. -/
def on? : StateClause S C E K O → Option (K × TransitionDraft S C E O)
  | on kind t => some (kind, t)
  | _ => none

/-- The transition without an event that is asked for. -/
def always? : StateClause S C E K O → Option (TransitionDraft S C E O)
  | always t => some t
  | _ => none

/-- The declaration of a state after one more clause. -/
def heed (d : StateDraft S C E K O) : StateClause S C E K O → StateDraft S C E K O
  | on kind t => d.onKind kind t
  | always t => d.eventless t
  | invoke effect => d.invoke effect
  | final => d.final

end StateClause

/-- A state and what is asked of it, in order. -/
structure Declaration (S C E K O : Type) where
  /-- The state. -/
  state : S
  /-- What is asked of it. -/
  clauses : List (StateClause S C E K O) := []

namespace Declaration

/-- The transitions for kinds of events. -/
def on (d : Declaration S C E K O) : List (K × TransitionDraft S C E O) :=
  d.clauses.filterMap StateClause.on?

/-- The transitions that need no event. -/
def always (d : Declaration S C E K O) : List (TransitionDraft S C E O) :=
  d.clauses.filterMap StateClause.always?

/-- The state is final, of itself or because it is asked to be. -/
def IsFinal [Label S] (d : Declaration S C E K O) : Prop :=
  Label.isFinal d.state = true ∨ .final ∈ d.clauses

/-- A transition or an effect is asked for. -/
def IsActive (d : Declaration S C E K O) : Prop :=
  (∃ kind t, .on kind t ∈ d.clauses) ∨ (∃ t, .always t ∈ d.clauses) ∨
    ∃ effect, .invoke effect ∈ d.clauses

/-- The state as it is configured when it is declared. -/
def draft [Label S] (d : Declaration S C E K O) : StateDraft S C E K O :=
  d.clauses.foldl StateClause.heed (.new d.state)

end Declaration

/-- What may be said of a machine. -/
inductive Clause (S C E K O : Type)
  /-- Its name. -/
  | withId (id : String)
  /-- That it has a state. -/
  | state (declaration : Declaration S C E K O)
  /-- That every state shares a transition. -/
  | on (kind : K) (t : TransitionDraft S C E O)
  /-- That a name stands for a guard. -/
  | guard (name : String) (guard : Guard C E)
  /-- That a name stands for an action. -/
  | action (name : String) (action : Action C E O)
  /-- That the names of a registry stand for what it holds. -/
  | implementations (registry : Registry C E O)

namespace Clause

/-- The declaration that is made. -/
def state? : Clause S C E K O → Option (Declaration S C E K O)
  | state declaration => some declaration
  | _ => none

/-- The shared transition that is declared. -/
def on? : Clause S C E K O → Option (K × TransitionDraft S C E O)
  | on kind t => some (kind, t)
  | _ => none

/-- The guards that are given names. -/
def guards : Clause S C E K O → List (String × Guard C E)
  | guard name g => [(name, g)]
  | implementations registry => registry.guards
  | _ => []

/-- The actions that are given names. -/
def actions : Clause S C E K O → List (String × Action C E O)
  | action name a => [(name, a)]
  | implementations registry => registry.actions
  | _ => []

/-- The draft after one more clause. -/
def heed [Label S] (d : Draft S C E K O) : Clause S C E K O → Draft S C E K O
  | withId id => d.withId id
  | state declaration =>
    d.state declaration.state fun s => declaration.clauses.foldl StateClause.heed s
  | on kind t => d.on kind t
  | guard name g => d.guard name g
  | action name a => d.action name a
  | implementations registry => d.implementations registry

end Clause

/-- A machine as it is described. -/
structure Description (S C E K O : Type) where
  /-- The state in which it begins. -/
  initial : S
  /-- The context with which it begins. -/
  context : C
  /-- What else is said of it, in order. -/
  clauses : List (Clause S C E K O)

namespace Description

/-- The declarations of states, in order, repeated ones included. -/
def declarations (m : Description S C E K O) : List (Declaration S C E K O) :=
  m.clauses.filterMap Clause.state?

/-- The declared states, in order, repeated ones included. -/
def states (m : Description S C E K O) : List S := m.declarations.map Declaration.state

/-- The transitions that every state shares, in order. -/
def shared (m : Description S C E K O) : List (K × TransitionDraft S C E O) :=
  m.clauses.filterMap Clause.on?

/-- Some guard has the name. -/
def HasGuard (m : Description S C E K O) (name : String) : Prop :=
  ∃ clause ∈ m.clauses, ∃ g, (name, g) ∈ clause.guards

/-- Some action has the name. -/
def HasAction (m : Description S C E K O) (name : String) : Prop :=
  ∃ clause ∈ m.clauses, ∃ a, (name, a) ∈ clause.actions

/-- The transition is declared somewhere: in a state, for a kind of event or without one, or for
every state. -/
def HasTransition (m : Description S C E K O) (t : TransitionDraft S C E O) : Prop :=
  (∃ d ∈ m.declarations, (∃ kind, (kind, t) ∈ d.on) ∨ t ∈ d.always) ∨
    ∃ kind, (kind, t) ∈ m.shared

/-- The transition refers to a state, to a guard or to an action that there is not. -/
def Dangling (m : Description S C E K O) (t : TransitionDraft S C E O) : Prop :=
  (∃ s, t.target = some s ∧ s ∉ m.states) ∨
    (∃ name, t.guard = some (.named name) ∧ ¬m.HasGuard name) ∨
    ∃ name, .named name ∈ t.actions ∧ ¬m.HasAction name

/-- The draft that the calls leave behind: one call for each clause. -/
def draft [Label S] (m : Description S C E K O) : Draft S C E K O :=
  m.clauses.foldl Clause.heed { initial := m.initial, context := m.context }

end Description

/-! ## Faults and their places -/

/-- Where in a transition a fault is found. -/
inductive Spot
  /-- At its target. -/
  | target
  /-- At its guard. -/
  | guard
  /-- At one of its actions. -/
  | action (k : Nat)

/-- The numbers that put the spots in order. -/
def Spot.rank : Spot → List Nat
  | target => [0]
  | guard => [1]
  | action k => [2, k]

/-- Where in a description a fault is found.  Declarations are numbered, and so are the transitions
within a declaration and the shared ones. -/
inductive Place
  /-- At a declaration, as one that was made before. -/
  | again (i : Nat)
  /-- At the state in which the machine begins. -/
  | initial
  /-- At a declaration, as one of a final state. -/
  | final (i : Nat)
  /-- At a transition of a state for a kind of event. -/
  | on (i j : Nat) (spot : Spot)
  /-- At a transition of a state without an event. -/
  | always (i j : Nat) (spot : Spot)
  /-- At a shared transition. -/
  | shared (j : Nat) (spot : Spot)

/-- The numbers that put the places in order.  Repeated declarations come first, then the initial
state, then the declarations one by one, and the shared transitions last. -/
def Place.rank : Place → List Nat
  | again i => [0, i]
  | initial => [1]
  | final i => [2, i, 0]
  | on i j spot => 2 :: i :: 1 :: j :: spot.rank
  | always i j spot => 2 :: i :: 2 :: j :: spot.rank
  | shared j spot => 3 :: j :: spot.rank

/-- One spot comes before another. -/
def Spot.Before (p q : Spot) : Prop := p.rank < q.rank

/-- One place comes before another. -/
def Place.Before (p q : Place) : Prop := p.rank < q.rank

lemma Place.before_of_lt {p q : Place} {a b : Nat} {rest rest' : List Nat}
    (hp : p.rank = a :: rest) (hq : q.rank = b :: rest') (h : a < b) : p.Before q := by
  rw [Before, hp, hq]
  exact List.cons_lt_cons_iff.mpr (.inl h)

namespace Description

variable [Label S]

/-- What is wrong with a transition that is declared in the scope. -/
inductive MistakeAt (m : Description S C E K O) (scope : Scope) (t : TransitionDraft S C E O) :
    Spot → Fault → Prop
  | target {s : S} (htarget : t.target = some s) (hs : s ∉ m.states) :
    MistakeAt m scope t .target (.unknownTarget scope (Label.name s))
  | guard {name : String} (hguard : t.guard = some (.named name)) (hname : ¬m.HasGuard name) :
    MistakeAt m scope t .guard (.unknownGuard scope name)
  | action {k : Nat} {name : String} (haction : t.actions[k]? = some (.named name))
    (hname : ¬m.HasAction name) :
    MistakeAt m scope t (.action k) (.unknownAction scope name)

/-- What is wrong with a declaration, the `i`-th of the description. -/
inductive DeclarationFaultAt (m : Description S C E K O) (kindName : K → String) (i : Nat)
    (d : Declaration S C E K O) : Place → Fault → Prop
  | final (hfinal : d.IsFinal) (hactive : d.IsActive) :
    DeclarationFaultAt m kindName i d (.final i) (.finalStateHasTransitions (Label.name d.state))
  | on {j : Nat} {kind : K} {t : TransitionDraft S C E O} {spot : Spot} {fault : Fault}
    (ht : d.on[j]? = some (kind, t))
    (hmistake : m.MistakeAt (.onKind (Label.name d.state) (kindName kind)) t spot fault) :
    DeclarationFaultAt m kindName i d (.on i j spot) fault
  | always {j : Nat} {t : TransitionDraft S C E O} {spot : Spot} {fault : Fault}
    (ht : d.always[j]? = some t)
    (hmistake : m.MistakeAt (.always (Label.name d.state)) t spot fault) :
    DeclarationFaultAt m kindName i d (.always i j spot) fault

/-- What is wrong with a machine. -/
inductive FaultAt [Kinded E K] (m : Description S C E K O) : Place → Fault → Prop
  | again {i : Nat} {s : S} (hs : m.states[i]? = some s) (hbefore : s ∈ m.states.take i) :
    FaultAt m (.again i) (.duplicateState (Label.name s))
  | initial (hinitial : m.initial ∉ m.states) :
    FaultAt m .initial (.unknownInitialState (Label.name m.initial))
  | declaration {i : Nat} {d : Declaration S C E K O} {place : Place} {fault : Fault}
    (hd : m.declarations[i]? = some d)
    (hfault : m.DeclarationFaultAt (Kinded.kindName E) i d place fault) : FaultAt m place fault
  | shared {j : Nat} {kind : K} {t : TransitionDraft S C E O} {spot : Spot} {fault : Fault}
    (ht : m.shared[j]? = some (kind, t))
    (hmistake : m.MistakeAt (.shared (Kinded.kindName E kind)) t spot fault) :
    FaultAt m (.shared j spot) fault

end Description

/-! ## What a draft keeps of a description -/

namespace StateClause

variable (d : StateDraft S C E K O) (clauses : List (StateClause S C E K O))

@[simp] lemma foldl_heed_state : (clauses.foldl heed d).state = d.state := by
  induction clauses generalizing d with
  | nil => rfl
  | cons clause clauses ih => cases clause <;> exact ih _

lemma foldl_heed_on : (clauses.foldl heed d).on = d.on ++ clauses.filterMap on? := by
  induction clauses generalizing d with
  | nil => simp
  | cons clause clauses ih =>
    rw [List.foldl_cons, ih]
    cases clause <;> simp [heed, on?, List.filterMap_cons, StateDraft.onKind, StateDraft.eventless,
      StateDraft.invoke, StateDraft.final]

lemma foldl_heed_always :
    (clauses.foldl heed d).always = d.always ++ clauses.filterMap always? := by
  induction clauses generalizing d with
  | nil => simp
  | cons clause clauses ih =>
    rw [List.foldl_cons, ih]
    cases clause <;> simp [heed, always?, List.filterMap_cons, StateDraft.onKind,
      StateDraft.eventless, StateDraft.invoke, StateDraft.final]

lemma foldl_heed_isFinal :
    (clauses.foldl heed d).isFinal = true ↔ d.isFinal = true ∨ .final ∈ clauses := by
  induction clauses generalizing d with
  | nil => simp
  | cons clause clauses ih =>
    rw [List.foldl_cons, ih]
    cases clause <;> simp [heed, StateDraft.onKind, StateDraft.eventless, StateDraft.invoke,
      StateDraft.final]

/-- Effects take each other's place, so of several that are asked for one is left. -/
lemma foldl_heed_effect :
    (clauses.foldl heed d).effect.isSome = true ↔
      d.effect.isSome = true ∨ ∃ effect, .invoke effect ∈ clauses := by
  induction clauses generalizing d with
  | nil => simp
  | cons clause clauses ih =>
    rw [List.foldl_cons, ih]
    cases clause <;> simp [heed, StateDraft.onKind, StateDraft.eventless, StateDraft.invoke,
      StateDraft.final]

lemma filterMap_on?_ne_nil :
    clauses.filterMap on? ≠ [] ↔ ∃ kind t, .on kind t ∈ clauses := by
  induction clauses with
  | nil => simp
  | cons clause clauses ih =>
    cases clause <;> simp [on?, List.filterMap_cons, ih]
    exact ⟨_, _, .inl ⟨rfl, rfl⟩⟩

lemma filterMap_always?_ne_nil :
    clauses.filterMap always? ≠ [] ↔ ∃ t, .always t ∈ clauses := by
  induction clauses with
  | nil => simp
  | cons clause clauses ih =>
    cases clause <;> simp [always?, List.filterMap_cons, ih]

end StateClause

namespace Declaration

variable [Label S] (d : Declaration S C E K O)

@[simp] lemma draft_state : d.draft.state = d.state := StateClause.foldl_heed_state _ _

@[simp] lemma draft_on : d.draft.on = d.on := StateClause.foldl_heed_on _ _

@[simp] lemma draft_always : d.draft.always = d.always := StateClause.foldl_heed_always _ _

lemma draft_isFinal : d.draft.isFinal = true ↔ d.IsFinal := StateClause.foldl_heed_isFinal _ _

lemma draft_isActive : d.draft.isActive = true ↔ d.IsActive := by
  have heffect : d.draft.effect.isSome = true ↔ ∃ effect, .invoke effect ∈ d.clauses := by
    rw [draft, StateClause.foldl_heed_effect]
    simp [StateDraft.new]
  have hon := StateClause.filterMap_on?_ne_nil d.clauses
  have halways := StateClause.filterMap_always?_ne_nil d.clauses
  rw [IsActive, ← hon, ← halways, ← heffect, StateDraft.isActive, draft_on, draft_always]
  simp [on, always, or_assoc]

end Declaration

namespace Registry

variable {r : Registry C E O} {name : String}

lemma guard?_isSome : (r.guard? name).isSome = true ↔ ∃ g, (name, g) ∈ r.guards := by
  simp [guard?, List.lookup_isSome_iff]

lemma action?_isSome : (r.action? name).isSome = true ↔ ∃ a, (name, a) ∈ r.actions := by
  simp [action?, List.lookup_isSome_iff]

end Registry

namespace Clause

variable [Label S] (d : Draft S C E K O) (clauses : List (Clause S C E K O))

@[simp] lemma foldl_heed_initial : (clauses.foldl heed d).initial = d.initial := by
  induction clauses generalizing d with
  | nil => rfl
  | cons clause clauses ih => cases clause <;> exact ih _

lemma foldl_heed_states : (clauses.foldl heed d).states =
    d.states ++ (clauses.filterMap state?).map Declaration.draft := by
  induction clauses generalizing d with
  | nil => simp
  | cons clause clauses ih =>
    rw [List.foldl_cons, ih]
    cases clause <;> simp [heed, state?, List.filterMap_cons, Declaration.draft, Draft.withId,
      Draft.state, Draft.on, Draft.guard, Draft.action, Draft.implementations]

lemma foldl_heed_shared :
    (clauses.foldl heed d).shared = d.shared ++ clauses.filterMap on? := by
  induction clauses generalizing d with
  | nil => simp
  | cons clause clauses ih =>
    rw [List.foldl_cons, ih]
    cases clause <;> simp [heed, on?, List.filterMap_cons, Draft.withId, Draft.state, Draft.on,
      Draft.guard, Draft.action, Draft.implementations]

lemma mem_foldl_heed_guards (entry : String × Guard C E) :
    entry ∈ (clauses.foldl heed d).registry.guards ↔
      entry ∈ d.registry.guards ∨ ∃ clause ∈ clauses, entry ∈ clause.guards := by
  induction clauses generalizing d with
  | nil => simp
  | cons clause clauses ih =>
    have hclause : entry ∈ (heed d clause).registry.guards ↔
        entry ∈ d.registry.guards ∨ entry ∈ clause.guards := by
      cases clause <;> simp [heed, guards, Draft.withId, Draft.state, Draft.on, Draft.guard,
        Draft.action, Draft.implementations, Registry.withGuard, Registry.withAction,
        Registry.extend, or_comm]
    rw [List.foldl_cons, ih, hclause]
    simp [or_assoc]

lemma mem_foldl_heed_actions (entry : String × Action C E O) :
    entry ∈ (clauses.foldl heed d).registry.actions ↔
      entry ∈ d.registry.actions ∨ ∃ clause ∈ clauses, entry ∈ clause.actions := by
  induction clauses generalizing d with
  | nil => simp
  | cons clause clauses ih =>
    have hclause : entry ∈ (heed d clause).registry.actions ↔
        entry ∈ d.registry.actions ∨ entry ∈ clause.actions := by
      cases clause <;> simp [heed, actions, Draft.withId, Draft.state, Draft.on, Draft.guard,
        Draft.action, Draft.implementations, Registry.withGuard, Registry.withAction,
        Registry.extend, or_comm]
    rw [List.foldl_cons, ih, hclause]
    simp [or_assoc]

end Clause

namespace Description

variable [Label S] (m : Description S C E K O)

@[simp] lemma draft_initial : m.draft.initial = m.initial := Clause.foldl_heed_initial _ _

@[simp] lemma draft_states : m.draft.states = m.declarations.map Declaration.draft :=
  Clause.foldl_heed_states _ _

@[simp] lemma draft_shared : m.draft.shared = m.shared := Clause.foldl_heed_shared _ _

@[simp] lemma draft_declared : m.draft.declared = m.states := by
  simp [Draft.declared, states]

lemma draft_guard? {name : String} :
    (m.draft.registry.guard? name).isSome = true ↔ m.HasGuard name := by
  rw [Registry.guard?_isSome, HasGuard]
  simp only [draft, Clause.mem_foldl_heed_guards, List.not_mem_nil, false_or]
  constructor
  · rintro ⟨g, clause, hclause, hg⟩
    exact ⟨clause, hclause, g, hg⟩
  · rintro ⟨clause, hclause, g, hg⟩
    exact ⟨g, clause, hclause, hg⟩

lemma draft_action? {name : String} :
    (m.draft.registry.action? name).isSome = true ↔ m.HasAction name := by
  rw [Registry.action?_isSome, HasAction]
  simp only [draft, Clause.mem_foldl_heed_actions, List.not_mem_nil, false_or]
  constructor
  · rintro ⟨a, clause, hclause, ha⟩
    exact ⟨clause, hclause, a, ha⟩
  · rintro ⟨clause, hclause, a, ha⟩
    exact ⟨a, clause, hclause, ha⟩

/-! ## The pass lists the faults -/

section

variable {m} [DecidableEq S] {scope : Scope} {t : TransitionDraft S C E O}

lemma lists_targetFaults : Lists Spot.Before
    (fun spot fault => ∃ s, t.target = some s ∧ s ∉ m.states ∧ spot = .target ∧
      fault = .unknownTarget scope (Label.name s))
    (t.targetFaults scope m.draft.declared) := by
  rw [TransitionDraft.targetFaults, draft_declared]
  cases t.target with
  | none => exact .nil (by simp)
  | some s => exact (Lists.exceptWhen (s ∈ m.states) .target _).congr (by simp)

omit [DecidableEq S] in
lemma lists_guardFaults : Lists Spot.Before
    (fun spot fault => ∃ name, t.guard = some (.named name) ∧ ¬m.HasGuard name ∧ spot = .guard ∧
      fault = .unknownGuard scope name)
    (t.guardFaults scope m.draft.registry) := by
  rw [TransitionDraft.guardFaults]
  match t.guard with
  | none => exact .nil (by simp)
  | some (.inline g) => exact .nil (by simp)
  | some (.named name) =>
    exact (Lists.exceptWhen ((m.draft.registry.guard? name).isSome = true) .guard _).congr
      (by simp [← draft_guard?])

omit [DecidableEq S] in
lemma lists_actionFaults : Lists Spot.Before
    (fun spot fault => ∃ k reference, t.actions[k]? = some reference ∧ ∃ name,
      reference = .named name ∧ ¬m.HasAction name ∧ spot = .action k ∧
        fault = .unknownAction scope name)
    (t.actionFaults scope m.draft.registry) := by
  rw [TransitionDraft.actionFaults, List.filterMap_eq_flatMap_toList]
  refine .flatMap ?_ ?_
  · rintro k (a | name) -
    · exact .nil (by simp)
    · simp only [apply_ite Option.toList, Option.toList_none, Option.toList_some]
      exact (Lists.exceptWhen ((m.draft.registry.action? name).isSome = true) (.action k) _).congr
        (by simp [← draft_action?])
  · rintro i reference j later p fault q fault' hij ⟨name, -, -, rfl, -⟩ ⟨name', -, -, rfl, -⟩
    simp [Spot.Before, Spot.rank, List.cons_lt_cons_iff, hij]

/-- The pass over a transition finds the target first, then the guard, then the actions in order. -/
lemma lists_transitionFaults :
    Lists Spot.Before (m.MistakeAt scope t) (t.faults scope m.draft.declared m.draft.registry) := by
  refine ((lists_targetFaults.append lists_guardFaults ?_).append lists_actionFaults ?_).congr ?_
  · rintro p fault q fault' ⟨s, -, -, rfl, -⟩ ⟨name, -, -, rfl, -⟩
    simp [Spot.Before, Spot.rank, List.cons_lt_cons_iff]
  · rintro p fault q fault' (⟨s, -, -, rfl, -⟩ | ⟨name, -, -, rfl, -⟩)
      ⟨k, reference, -, name', -, -, rfl, -⟩
    · simp [Spot.Before, Spot.rank, List.cons_lt_cons_iff]
    · simp [Spot.Before, Spot.rank, List.cons_lt_cons_iff]
  · intro spot fault
    constructor
    · rintro ((⟨s, htarget, hs, rfl, rfl⟩ | ⟨name, hguard, hname, rfl, rfl⟩) |
        ⟨k, reference, haction, name, rfl, hname, rfl, rfl⟩)
      · exact .target htarget hs
      · exact .guard hguard hname
      · exact .action haction hname
    · rintro (⟨htarget, hs⟩ | ⟨hguard, hname⟩ | ⟨haction, hname⟩)
      · exact .inl (.inl ⟨_, htarget, hs, rfl, rfl⟩)
      · exact .inl (.inr ⟨_, hguard, hname, rfl, rfl⟩)
      · exact .inr ⟨_, _, haction, _, rfl, hname, rfl, rfl⟩

/-- The pass over the transitions for kinds of events of a state, over its transitions without one,
or over the shared ones.  The faults of the `j`-th of them have the places `place j`. -/
lemma lists_tableFaults (m : Description S C E K O) {T : Type} (entries : List T)
    (scope : T → Scope) (transition : T → TransitionDraft S C E O) (place : Nat → Spot → Place)
    (hspot : ∀ j p q, p.Before q → (place j p).Before (place j q))
    (hentry : ∀ i j p q, i < j → (place i p).Before (place j q)) :
    Lists Place.Before
      (fun q fault => ∃ j entry, entries[j]? = some entry ∧ ∃ spot fault',
        m.MistakeAt (scope entry) (transition entry) spot fault' ∧ q = place j spot ∧
          fault = fault')
      (entries.flatMap fun entry =>
        (transition entry).faults (scope entry) m.draft.declared m.draft.registry) := by
  refine .flatMap ?_ ?_
  · intro j entry hj
    have hpass : Lists Spot.Before (m.MistakeAt (scope entry) (transition entry)) _ :=
      lists_transitionFaults
    have himage := hpass.image Place.Before (place j) id (hspot j)
    rwa [List.map_id] at himage
  · rintro i entry j later p fault q fault' hij ⟨spot, _, -, rfl, -⟩ ⟨spot', _, -, rfl, -⟩
    exact hentry i j spot spot' hij

omit [Label S] in
/-- The pass over the declared states finds those that stand before. -/
lemma lists_repeated (seen l : List S) :
    Lists (· < ·) (fun i s => l[i]? = some s ∧ (s ∈ seen ∨ s ∈ l.take i)) (repeated seen l) := by
  induction l generalizing seen with
  | nil => exact .nil (by simp)
  | cons s l ih =>
    have hrest (seen : List S) := (ih seen).image (· < ·) Nat.succ id (by simp)
    simp only [List.map_id] at hrest
    rw [repeated]
    by_cases hs : s ∈ seen
    · rw [if_pos hs]
      refine ((Lists.single 0 s).append (hrest seen) ?_).congr ?_
      · rintro _ _ _ _ ⟨rfl, -⟩ ⟨j, -, -, rfl, -⟩
        exact Nat.succ_pos j
      · intro i a
        cases i with
        | zero => grind
        | succ i => grind
    · rw [if_neg hs]
      refine (hrest (s :: seen)).congr ?_
      intro i a
      cases i with
      | zero => grind
      | succ i => grind

lemma lists_declarationFaults (kindName : K → String) (i : Nat) (d : Declaration S C E K O) :
    Lists Place.Before (m.DeclarationFaultAt kindName i d)
      (d.draft.faults kindName m.draft.declared m.draft.registry) := by
  have hfinal : Lists Place.Before (fun p fault => (d.IsFinal ∧ d.IsActive) ∧ p = .final i ∧
      fault = .finalStateHasTransitions (Label.name d.state))
      (if d.draft.isFinal && d.draft.isActive then
        [Fault.finalStateHasTransitions (Label.name d.state)] else []) :=
    (Lists.onlyIf ((d.draft.isFinal && d.draft.isActive) = true) (.final i) _).congr
      (by simp [← d.draft_isFinal, ← d.draft_isActive])
  have hon := lists_tableFaults m d.on
    (fun entry => .onKind (Label.name d.state) (kindName entry.1)) Prod.snd (.on i)
    (by simp [Place.Before, Place.rank, Spot.Before])
    (by simp +contextual [Place.Before, Place.rank, List.cons_lt_cons_iff])
  have halways := lists_tableFaults m d.always
    (fun _ => .always (Label.name d.state)) id (.always i)
    (by simp [Place.Before, Place.rank, Spot.Before])
    (by simp +contextual [Place.Before, Place.rank, List.cons_lt_cons_iff])
  simp only [StateDraft.faults, Declaration.draft_state, Declaration.draft_on,
    Declaration.draft_always]
  refine ((hfinal.append hon ?_).append halways ?_).congr ?_
  · rintro p fault q fault' ⟨-, rfl, -⟩ ⟨j, entry, -, spot, _, -, rfl, -⟩
    simp [Place.Before, Place.rank, List.cons_lt_cons_iff]
  · rintro p fault q fault' (⟨-, rfl, -⟩ | ⟨j, entry, -, spot, _, -, rfl, -⟩)
      ⟨k, later, -, spot', _, -, rfl, -⟩
    · simp [Place.Before, Place.rank, List.cons_lt_cons_iff]
    · simp [Place.Before, Place.rank, List.cons_lt_cons_iff]
  · intro place fault
    constructor
    · rintro ((⟨⟨hfinal, hactive⟩, rfl, rfl⟩ | ⟨j, ⟨kind, t⟩, ht, spot, _, hmistake, rfl, rfl⟩) |
        ⟨j, t, ht, spot, _, hmistake, rfl, rfl⟩)
      · exact .final hfinal hactive
      · exact .on ht hmistake
      · exact .always ht hmistake
    · rintro (⟨hfinal, hactive⟩ | ⟨ht, hmistake⟩ | ⟨ht, hmistake⟩)
      · exact .inl (.inl ⟨⟨hfinal, hactive⟩, rfl, rfl⟩)
      · exact .inl (.inr ⟨_, _, ht, _, _, hmistake, rfl, rfl⟩)
      · exact .inr ⟨_, _, ht, _, _, hmistake, rfl, rfl⟩

omit [DecidableEq S] in
/-- The faults of one declaration stand together. -/
lemma DeclarationFaultAt.rank {kindName : K → String} {i : Nat} {d : Declaration S C E K O}
    {place : Place} {fault : Fault} (h : m.DeclarationFaultAt kindName i d place fault) :
    ∃ rest, place.rank = 2 :: i :: rest := by
  cases h with
  | final => exact ⟨_, rfl⟩
  | on => exact ⟨_, rfl⟩
  | always => exact ⟨_, rfl⟩

variable [Kinded E K]

/-- The pass over a draft finds the faults of its description. -/
theorem lists_faults : Lists Place.Before m.FaultAt m.draft.faults := by
  have hagain := (lists_repeated [] m.states).image Place.Before .again
    (fun s => Fault.duplicateState (Label.name s))
    (by simp [Place.Before, Place.rank, List.cons_lt_cons_iff])
  have hinitial : Lists Place.Before _ _ := .exceptWhen (m.initial ∈ m.states) .initial
    (Fault.unknownInitialState (Label.name m.initial))
  have hdeclarations : Lists Place.Before
      (fun place fault => ∃ i d, m.declarations[i]? = some d ∧
        m.DeclarationFaultAt (Kinded.kindName E) i d place fault)
      (m.declarations.flatMap fun d =>
        d.draft.faults (Kinded.kindName E) m.draft.declared m.draft.registry) := by
    refine .flatMap (fun i d _ => lists_declarationFaults _ i d) ?_
    intro i d j later p fault q fault' hij hp hq
    obtain ⟨rest, hp⟩ := hp.rank
    obtain ⟨rest', hq⟩ := hq.rank
    simp [Place.Before, hp, hq, List.cons_lt_cons_iff, hij]
  have hshared := lists_tableFaults m m.shared
    (fun entry => .shared (Kinded.kindName E entry.1)) Prod.snd .shared
    (by simp [Place.Before, Place.rank, Spot.Before])
    (by simp +contextual [Place.Before, Place.rank, List.cons_lt_cons_iff])
  rw [Draft.faults, draft_states, List.flatMap_map, draft_shared, draft_initial]
  simp only [draft_declared] at hdeclarations hshared ⊢
  refine (((hagain.append hinitial ?_).append hdeclarations ?_).append hshared ?_).congr ?_
  · rintro p fault q fault' ⟨i, s, -, rfl, -⟩ ⟨-, rfl, -⟩
    exact Place.before_of_lt rfl rfl (show 0 < 1 by decide)
  · rintro p fault q fault' hp ⟨i, d, -, hq⟩
    obtain ⟨rest, hq⟩ := hq.rank
    obtain ⟨i, s, -, rfl, -⟩ | ⟨-, rfl, -⟩ := hp
    · exact Place.before_of_lt rfl hq (show 0 < 2 by decide)
    · exact Place.before_of_lt rfl hq (show 1 < 2 by decide)
  · rintro p fault q fault' hp ⟨j, entry, -, spot, _, -, rfl, -⟩
    obtain (⟨i, s, -, rfl, -⟩ | ⟨-, rfl, -⟩) | ⟨i, d, -, hp⟩ := hp
    · exact Place.before_of_lt rfl rfl (show 0 < 3 by decide)
    · exact Place.before_of_lt rfl rfl (show 1 < 3 by decide)
    · obtain ⟨rest, hp⟩ := hp.rank
      exact Place.before_of_lt hp rfl (show 2 < 3 by decide)
  · intro place fault
    constructor
    · rintro (((⟨i, s, ⟨hs, hbefore⟩, rfl, rfl⟩ | ⟨hinitial, rfl, rfl⟩) | ⟨i, d, hd, hfault⟩) |
        ⟨j, ⟨kind, t⟩, ht, spot, _, hmistake, rfl, rfl⟩)
      · exact .again hs (by simpa using hbefore)
      · exact .initial hinitial
      · exact .declaration hd hfault
      · exact .shared ht hmistake
    · rintro (⟨hs, hbefore⟩ | ⟨hinitial⟩ | ⟨hd, hfault⟩ | ⟨ht, hmistake⟩)
      · exact .inl (.inl (.inl ⟨_, _, ⟨hs, .inr hbefore⟩, rfl, rfl⟩))
      · exact .inl (.inl (.inr ⟨hinitial, rfl, rfl⟩))
      · exact .inl (.inr ⟨_, _, hd, hfault⟩)
      · exact .inr ⟨_, _, ht, _, _, hmistake, rfl, rfl⟩

end

section

variable {m} {scope : Scope} {t : TransitionDraft S C E O}

omit [Label S] in
/-- A state is declared twice if one of the declarations repeats one before it. -/
lemma exists_repeated_iff :
    (∃ i s, m.states[i]? = some s ∧ s ∈ m.states.take i) ↔ ¬m.states.Nodup := by
  rw [List.nodup_iff_getElem?_ne_getElem?]
  push Not
  constructor
  · rintro ⟨j, s, hj, hs⟩
    obtain ⟨i, hi, rfl⟩ := List.mem_take_iff_getElem.mp hs
    refine ⟨i, j, by omega, (List.getElem?_eq_some_iff.mp hj).1, ?_⟩
    rw [hj, List.getElem?_eq_getElem]
  · rintro ⟨i, j, hij, hj, heq⟩
    rw [List.getElem?_eq_getElem hj, List.getElem?_eq_getElem (Nat.lt_trans hij hj)] at heq
    refine ⟨j, m.states[j], List.getElem?_eq_getElem hj, ?_⟩
    rw [← Option.some.inj heq]
    exact List.mem_take_iff_getElem.mpr ⟨i, by omega, rfl⟩

/-- Something is wrong with a transition, whatever its scope, if one of its references dangles. -/
lemma exists_mistake_iff : (∃ spot fault, m.MistakeAt scope t spot fault) ↔ m.Dangling t := by
  constructor
  · rintro ⟨spot, fault, ⟨htarget, hs⟩ | ⟨hguard, hname⟩ | ⟨haction, hname⟩⟩
    · exact .inl ⟨_, htarget, hs⟩
    · exact .inr (.inl ⟨_, hguard, hname⟩)
    · exact .inr (.inr ⟨_, List.mem_of_getElem? haction, hname⟩)
  · rintro (⟨s, htarget, hs⟩ | ⟨name, hguard, hname⟩ | ⟨name, haction, hname⟩)
    · exact ⟨_, _, .target htarget hs⟩
    · exact ⟨_, _, .guard hguard hname⟩
    · obtain ⟨k, hk⟩ := List.mem_iff_getElem?.mp haction
      exact ⟨_, _, .action hk hname⟩

/-- Something is wrong with a machine if a state is declared twice, the initial state is not
declared, a final state is active, or a reference of some transition dangles. -/
lemma exists_fault_iff [Kinded E K] :
    (∃ place fault, m.FaultAt place fault) ↔
      ¬m.states.Nodup ∨ m.initial ∉ m.states ∨ (∃ d ∈ m.declarations, d.IsFinal ∧ d.IsActive) ∨
        ∃ t, m.HasTransition t ∧ m.Dangling t := by
  rw [← exists_repeated_iff]
  constructor
  · rintro ⟨place, fault, ⟨hs, hbefore⟩ | ⟨hinitial⟩ | ⟨hd, hfault⟩ | ⟨ht, hmistake⟩⟩
    · exact .inl ⟨_, _, hs, hbefore⟩
    · exact .inr (.inl hinitial)
    · have hmem := List.mem_of_getElem? hd
      obtain ⟨hfinal, hactive⟩ | ⟨ht, hmistake⟩ | ⟨ht, hmistake⟩ := hfault
      · exact .inr (.inr (.inl ⟨_, hmem, hfinal, hactive⟩))
      · have hdangling := exists_mistake_iff.mp ⟨_, _, hmistake⟩
        exact .inr (.inr (.inr ⟨_, .inl ⟨_, hmem, .inl ⟨_, List.mem_of_getElem? ht⟩⟩, hdangling⟩))
      · have hdangling := exists_mistake_iff.mp ⟨_, _, hmistake⟩
        exact .inr (.inr (.inr ⟨_, .inl ⟨_, hmem, .inr (List.mem_of_getElem? ht)⟩, hdangling⟩))
    · have hdangling := exists_mistake_iff.mp ⟨_, _, hmistake⟩
      exact .inr (.inr (.inr ⟨_, .inr ⟨_, List.mem_of_getElem? ht⟩, hdangling⟩))
  · rintro (⟨i, s, hs, hbefore⟩ | hinitial | ⟨d, hmem, hfinal, hactive⟩ | ⟨t, ht, hdangling⟩)
    · exact ⟨_, _, .again hs hbefore⟩
    · exact ⟨_, _, .initial hinitial⟩
    · obtain ⟨i, hd⟩ := List.mem_iff_getElem?.mp hmem
      exact ⟨_, _, .declaration hd (.final hfinal hactive)⟩
    · obtain ⟨d, hmem, ⟨kind, ht⟩ | ht⟩ | ⟨kind, ht⟩ := ht
      · obtain ⟨i, hd⟩ := List.mem_iff_getElem?.mp hmem
        obtain ⟨j, hj⟩ := List.mem_iff_getElem?.mp ht
        obtain ⟨spot, fault, hmistake⟩ := exists_mistake_iff.mpr hdangling
        exact ⟨_, _, .declaration hd (.on hj hmistake)⟩
      · obtain ⟨i, hd⟩ := List.mem_iff_getElem?.mp hmem
        obtain ⟨j, hj⟩ := List.mem_iff_getElem?.mp ht
        obtain ⟨spot, fault, hmistake⟩ := exists_mistake_iff.mpr hdangling
        exact ⟨_, _, .declaration hd (.always hj hmistake)⟩
      · obtain ⟨j, hj⟩ := List.mem_iff_getElem?.mp ht
        obtain ⟨spot, fault, hmistake⟩ := exists_mistake_iff.mpr hdangling
        exact ⟨_, _, .shared hj hmistake⟩

end

variable [DecidableEq S] [DecidableEq K] [Kinded E K]

/-- Nothing is wrong with a description. -/
structure Faultless (m : Description S C E K O) : Prop where
  nodup : m.states.Nodup
  initial : m.initial ∈ m.states
  inactive {d : Declaration S C E K O} (hd : d ∈ m.declarations) (hfinal : d.IsFinal) : ¬d.IsActive
  closed {t : TransitionDraft S C E O} (ht : m.HasTransition t) : ¬m.Dangling t

/-- What is built is what was compiled, of a description with which nothing is wrong. -/
lemma faultless_of_build {d : Definition S C E K O} (h : m.draft.build = .ok d) :
    m.Faultless ∧ d = m.draft.compile := by
  rw [Draft.build] at h
  split at h
  · next hempty =>
    have hno := lists_faults.ne_nil_iff.not.mp (not_not_intro (List.isEmpty_iff.mp hempty))
    rw [exists_fault_iff] at hno
    push Not at hno
    obtain ⟨hnodup, hinitial, hinactive, hclosed⟩ := hno
    exact ⟨⟨hnodup, hinitial, hinactive _, hclosed _⟩, (Except.ok.inj h).symm⟩
  · cases h

/-- **A machine is rejected exactly with the faults of its description.**  What is handed back lists
them, each once for each of its places, in the order of the places, and there is no other list of
which this could be said.  A machine is rejected just in case some state is declared twice, or the
initial state is not declared, or a final state has a transition or an effect, or some transition
refers to a state that is not declared or to a guard or an action that is not registered. -/
theorem build_rejects_faults :
    (∀ faults, m.draft.build = .error faults ↔
      faults ≠ [] ∧ Lists Place.Before m.FaultAt faults) ∧
    ((∃ faults, m.draft.build = .error faults) ↔
      ¬m.states.Nodup ∨ m.initial ∉ m.states ∨ (∃ d ∈ m.declarations, d.IsFinal ∧ d.IsActive) ∨
        ∃ t, m.HasTransition t ∧ m.Dangling t) := by
  constructor
  · intro faults
    rw [Draft.build_eq_error_iff]
    constructor
    · rintro ⟨rfl, hne⟩
      exact ⟨hne, lists_faults⟩
    · rintro ⟨hne, hfaults⟩
      exact ⟨hfaults.unique (fun p q hpq hqp => List.lt_asymm hpq hqp) lists_faults, hne⟩
  · have hrejected : (∃ faults, m.draft.build = .error faults) ↔ m.draft.faults ≠ [] := by
      simp [Draft.build_eq_error_iff]
    rw [hrejected, lists_faults.ne_nil_iff, exists_fault_iff]

end Description

end Macrostep
