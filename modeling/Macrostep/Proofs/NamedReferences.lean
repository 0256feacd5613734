/-
# Names and what they stand for

A manuscript is the description of a machine in which it is also written how the registries come
about: by registrations, one after the other, some of which merge a registry that came about in the
same way.  Written out flat, each name stands for what is registered under it last, among the guards
or among the actions, wherever in the manuscript the name is used.

A machine does not depend on the names: with the guards and the actions themselves in the places of
their names, and with nothing registered, the manuscript describes the same machine
(`Manuscript.build_inlined`).
-/
import Mathlib.Tactic.Lemma
import Macrostep.Proofs.BuildFaults
import Macrostep.Proofs.Course

namespace Macrostep

variable {S C E K O : Type}

/-! ## Registrations -/

namespace Registry

variable (r : Registry C E O) (name other : String)

@[simp] lemma guard?_empty : ({} : Registry C E O).guard? name = none := rfl

@[simp] lemma action?_empty : ({} : Registry C E O).action? name = none := rfl

lemma guard?_withGuard (g : Guard C E) :
    (r.withGuard name g).guard? other = if name = other then some g else r.guard? other := by
  by_cases h : name = other
  · simp [guard?, withGuard, h]
  · simp [guard?, withGuard, h, List.lookup_cons, beq_eq_false_iff_ne.mpr (Ne.symm h)]

lemma action?_withAction (a : Action C E O) :
    (r.withAction name a).action? other = if name = other then some a else r.action? other := by
  by_cases h : name = other
  · simp [action?, withAction, h]
  · simp [action?, withAction, h, List.lookup_cons, beq_eq_false_iff_ne.mpr (Ne.symm h)]

end Registry

/-- What may be done to a registry. -/
inductive Registration (C E O : Type)
  /-- A guard is registered. -/
  | guard (name : String) (guard : Guard C E)
  /-- An action is registered. -/
  | action (name : String) (action : Action C E O)
  /-- A registry is merged that comes about by registrations of its own. -/
  | merge (registrations : List (Registration C E O))

namespace Registration

mutual

/-- A registry after one more registration. -/
def enrol (r : Registry C E O) : Registration C E O → Registry C E O
  | guard name g => r.withGuard name g
  | action name a => r.withAction name a
  | merge registrations => r.extend (enrolAll {} registrations)

/-- A registry after registrations, one after the other. -/
def enrolAll (r : Registry C E O) : List (Registration C E O) → Registry C E O
  | [] => r
  | registration :: registrations => enrolAll (enrol r registration) registrations

end

mutual

/-- A registration written out flat: what is merged stands where it is merged. -/
def flat : Registration C E O → List (Registration C E O)
  | guard name g => [guard name g]
  | action name a => [action name a]
  | merge registrations => flatAll registrations

/-- Registrations written out flat. -/
def flatAll : List (Registration C E O) → List (Registration C E O)
  | [] => []
  | registration :: registrations => flat registration ++ flatAll registrations

end

/-- The guard that is registered under the name. -/
def guardAs? (name : String) : Registration C E O → Option (Guard C E)
  | guard name' g => if name' = name then some g else none
  | _ => none

/-- The action that is registered under the name. -/
def actionAs? (name : String) : Registration C E O → Option (Action C E O)
  | action name' a => if name' = name then some a else none
  | _ => none

/-- The guard that is registered last under the name. -/
def lastGuard? (registrations : List (Registration C E O)) (name : String) : Option (Guard C E) :=
  (registrations.filterMap (guardAs? name)).getLast?

/-- The action that is registered last under the name. -/
def lastAction? (registrations : List (Registration C E O)) (name : String) :
    Option (Action C E O) :=
  (registrations.filterMap (actionAs? name)).getLast?

variable (name : String) (front registrations : List (Registration C E O))

lemma lastGuard?_append : lastGuard? (front ++ registrations) name =
    (lastGuard? registrations name).or (lastGuard? front name) := by
  rw [lastGuard?, List.filterMap_append, List.getLast?_append]
  rfl

lemma lastAction?_append : lastAction? (front ++ registrations) name =
    (lastAction? registrations name).or (lastAction? front name) := by
  rw [lastAction?, List.filterMap_append, List.getLast?_append]
  rfl

/-- What a registry knows after registrations that read flat like this. -/
structure Learns (r r' : Registry C E O) (registrations : List (Registration C E O)) : Prop where
  guard (name : String) : r'.guard? name = (lastGuard? registrations name).or (r.guard? name)
  action (name : String) : r'.action? name = (lastAction? registrations name).or (r.action? name)

lemma Learns.refl (r : Registry C E O) : Learns r r [] := ⟨fun _ => rfl, fun _ => rfl⟩

variable {front registrations} {r r' r'' : Registry C E O}

lemma Learns.trans (h : Learns r r' front) (h' : Learns r' r'' registrations) :
    Learns r r'' (front ++ registrations) where
  guard name := by rw [h'.guard, h.guard, lastGuard?_append, Option.or_assoc]
  action name := by rw [h'.action, h.action, lastAction?_append, Option.or_assoc]

lemma learns_withGuard (r : Registry C E O) (name : String) (g : Guard C E) :
    Learns r (r.withGuard name g) [.guard name g] where
  guard other := by
    rw [Registry.guard?_withGuard]
    by_cases h : name = other <;> simp [lastGuard?, guardAs?, h]
  action other := rfl

lemma learns_withAction (r : Registry C E O) (name : String) (a : Action C E O) :
    Learns r (r.withAction name a) [.action name a] where
  guard other := rfl
  action other := by
    rw [Registry.action?_withAction]
    by_cases h : name = other <;> simp [lastAction?, actionAs?, h]

lemma Learns.extend (r : Registry C E O) (h : Learns {} r' registrations) :
    Learns r (r.extend r') registrations where
  guard name := by
    rw [Registry.guard?_extend, h.guard, Registry.guard?_empty, Option.or_none]
  action name := by
    rw [Registry.action?_extend, h.action, Registry.action?_empty, Option.or_none]

mutual

/-- What is registered last under a name in the flat form takes its place. -/
theorem learns_enrol (r : Registry C E O) :
    (registration : Registration C E O) → Learns r (enrol r registration) (flat registration)
  | guard name g => learns_withGuard r name g
  | action name a => learns_withAction r name a
  | merge registrations => (learns_enrolAll {} registrations).extend r

theorem learns_enrolAll (r : Registry C E O) : (registrations : List (Registration C E O)) →
    Learns r (enrolAll r registrations) (flatAll registrations)
  | [] => .refl r
  | registration :: registrations =>
    (learns_enrol r registration).trans (learns_enrolAll (enrol r registration) registrations)

end

end Registration

/-! ## Manuscripts -/

/-- What may stand in a manuscript. -/
inductive Line (S C E K O : Type)
  /-- The name of the machine. -/
  | withId (id : String)
  /-- A state and what is asked of it. -/
  | state (declaration : Declaration S C E K O)
  /-- A transition that every state shares. -/
  | on (kind : K) (t : TransitionDraft S C E O)
  /-- A registration. -/
  | register (registration : Registration C E O)

namespace Line

/-- The clause that a line becomes: a registry that is to be merged has come about by then. -/
def clause : Line S C E K O → Clause S C E K O
  | withId id => .withId id
  | state declaration => .state declaration
  | on kind t => .on kind t
  | register (.guard name g) => .guard name g
  | register (.action name a) => .action name a
  | register (.merge registrations) => .implementations (Registration.enrolAll {} registrations)

/-- The registrations of a line, written out flat. -/
def registrations : Line S C E K O → List (Registration C E O)
  | register registration => registration.flat
  | _ => []

end Line

/-- A description in which it is written how registries come about. -/
structure Manuscript (S C E K O : Type) where
  /-- The state in which the machine begins. -/
  initial : S
  /-- The context with which it begins. -/
  context : C
  /-- What else is written of it, in order. -/
  lines : List (Line S C E K O)

namespace Manuscript

/-- What a manuscript says of a machine. -/
def description (w : Manuscript S C E K O) : Description S C E K O where
  initial := w.initial
  context := w.context
  clauses := w.lines.map Line.clause

/-- All registrations, written out flat, in order. -/
def registrations (w : Manuscript S C E K O) : List (Registration C E O) :=
  w.lines.flatMap Line.registrations

/-- The guard that a name stands for. -/
def guard? (w : Manuscript S C E K O) (name : String) : Option (Guard C E) :=
  Registration.lastGuard? w.registrations name

/-- The action that a name stands for. -/
def action? (w : Manuscript S C E K O) (name : String) : Option (Action C E O) :=
  Registration.lastAction? w.registrations name

end Manuscript

section

variable [Label S]

lemma Line.registry_heed (d : Draft S C E K O) (line : Line S C E K O) :
    Registration.Learns d.registry (Clause.heed d line.clause).registry line.registrations := by
  cases line with
  | withId id => exact .refl _
  | state declaration => exact .refl _
  | on kind t => exact .refl _
  | register registration =>
    have h := Registration.learns_enrol d.registry registration
    cases registration <;> exact h

lemma Line.registry_foldl_heed (d : Draft S C E K O) (lines : List (Line S C E K O)) :
    Registration.Learns d.registry ((lines.map clause).foldl Clause.heed d).registry
      (lines.flatMap registrations) := by
  induction lines generalizing d with
  | nil => exact .refl _
  | cons line lines ih => exact (registry_heed d line).trans (ih (Clause.heed d line.clause))

variable (w : Manuscript S C E K O)

/-- When the machine is built, a name stands for the guard that was registered last under it. -/
lemma Manuscript.draft_guard? : w.description.draft.registry.guard? = w.guard? := by
  funext name
  exact ((Line.registry_foldl_heed _ w.lines).guard name).trans (Option.or_none)

/-- When the machine is built, a name stands for the action that was registered last under it. -/
lemma Manuscript.draft_action? : w.description.draft.registry.action? = w.action? := by
  funext name
  exact ((Line.registry_foldl_heed _ w.lines).action name).trans (Option.or_none)

end

/-! ## Inlining -/

section

/-- The reference with what its name stands for in place of the name, if it stands for anything. -/
def Reference.inlined {T : Type} (meaning : String → Option T) : Reference T → Reference T
  | inline value => inline value
  | named name => (meaning name).elim (named name) inline

variable (guards : String → Option (Guard C E)) (actions : String → Option (Action C E O))

/-- The transition with its references inlined. -/
def TransitionDraft.inlined (t : TransitionDraft S C E O) : TransitionDraft S C E O where
  target := t.target
  guard := t.guard.map (Reference.inlined guards)
  actions := t.actions.map (Reference.inlined actions)

/-- No reference of the transition is by name. -/
def TransitionDraft.IsInline (t : TransitionDraft S C E O) : Prop :=
  (∀ name, t.guard ≠ some (.named name)) ∧ ∀ name, .named name ∉ t.actions

/-- The clause with its references inlined. -/
def StateClause.inlined : StateClause S C E K O → StateClause S C E K O
  | on kind t => on kind (t.inlined guards actions)
  | always t => always (t.inlined guards actions)
  | invoke effect => invoke effect
  | final => final

/-- The declaration with its references inlined. -/
def Declaration.inlined (d : Declaration S C E K O) : Declaration S C E K O where
  state := d.state
  clauses := d.clauses.map (StateClause.inlined guards actions)

/-- The line with its references inlined; a registration is left out. -/
def Line.inlined? : Line S C E K O → Option (Line S C E K O)
  | withId id => some (withId id)
  | state declaration => some (state (declaration.inlined guards actions))
  | on kind t => some (on kind (t.inlined guards actions))
  | register _ => none

/-- The manuscript with the guards and actions themselves in the places of their names, and without
registrations. -/
def Manuscript.inlined (w : Manuscript S C E K O) : Manuscript S C E K O where
  initial := w.initial
  context := w.context
  lines := w.lines.filterMap (Line.inlined? w.guard? w.action?)

/-- The declaration of a state with its references inlined. -/
def StateDraft.inlined (d : StateDraft S C E K O) : StateDraft S C E K O where
  state := d.state
  on := d.on.map fun (kind, t) => (kind, t.inlined guards actions)
  always := d.always.map (TransitionDraft.inlined guards actions)
  effect := d.effect
  isFinal := d.isFinal

/-- The draft with its references inlined and with nothing registered. -/
def Draft.inlined (d : Draft S C E K O) : Draft S C E K O where
  id := d.id
  initial := d.initial
  context := d.context
  states := d.states.map (StateDraft.inlined guards actions)
  shared := d.shared.map fun (kind, t) => (kind, t.inlined guards actions)
  registry := {}

end

/-! ## Inlined drafts describe the same machine -/

section

variable (t : TransitionDraft S C E O) (r : Registry C E O)

lemma Reference.resolveGuard?_inlined (reference : Reference (Guard C E)) :
    (reference.inlined r.guard?).resolveGuard? ({} : Registry C E O) =
      reference.resolveGuard? r := by
  cases reference with
  | inline g => rfl
  | named name =>
    rw [inlined, resolveGuard?]
    cases r.guard? name <;> rfl

lemma Reference.resolveAction?_inlined (reference : Reference (Action C E O)) :
    (reference.inlined r.action?).resolveAction? {} = reference.resolveAction? r := by
  cases reference with
  | inline a => rfl
  | named name =>
    rw [inlined, resolveAction?]
    cases r.action? name <;> rfl

lemma TransitionDraft.resolve_inlined :
    (t.inlined r.guard? r.action?).resolve {} = t.resolve r := by
  have hguard : ((t.guard.map (Reference.inlined r.guard?)).bind
      (·.resolveGuard? ({} : Registry C E O))) = t.guard.bind (·.resolveGuard? r) := by
    cases t.guard with
    | none => rfl
    | some reference => exact Reference.resolveGuard?_inlined r reference
  simp only [resolve, inlined, hguard, List.filterMap_map, Function.comp_def,
    Reference.resolveAction?_inlined]

variable [DecidableEq S] [Label S]

/-- A name that stands for nothing is left, so an inlined transition has the faults that the
transition had. -/
lemma TransitionDraft.faults_inlined (scope : Scope) (declared : List S) :
    (t.inlined r.guard? r.action?).faults scope declared {} = t.faults scope declared r := by
  have hguard : (t.inlined r.guard? r.action?).guardFaults scope ({} : Registry C E O) =
      t.guardFaults scope r := by
    rw [guardFaults, guardFaults, inlined]
    cases t.guard with
    | none => rfl
    | some reference =>
      cases reference with
      | inline g => rfl
      | named name =>
        rw [Option.map_some, Reference.inlined]
        cases h : r.guard? name <;> simp [h]
  have haction : (t.inlined r.guard? r.action?).actionFaults scope ({} : Registry C E O) =
      t.actionFaults scope r := by
    rw [actionFaults, actionFaults, inlined, List.filterMap_map]
    refine List.filterMap_congr fun reference _ => ?_
    cases reference with
    | inline a => rfl
    | named name =>
      rw [Function.comp_apply, Reference.inlined]
      cases h : r.action? name <;> simp [h]
  rw [faults, faults, hguard, haction]
  rfl

variable [DecidableEq K] [Kinded E K]

omit [DecidableEq S] [DecidableEq K] [Label S] [Kinded E K] in
lemma StateDraft.placements_inlined (d : StateDraft S C E K O) :
    (d.inlined r.guard? r.action?).placements {} = d.placements r := by
  simp only [placements, inlined, List.map_map, Function.comp_def, TransitionDraft.resolve_inlined]

omit [DecidableEq K] [Kinded E K] in
lemma StateDraft.faults_inlined (d : StateDraft S C E K O) (kindName : K → String)
    (declared : List S) :
    (d.inlined r.guard? r.action?).faults kindName declared {} = d.faults kindName declared r := by
  have hactive : (d.inlined r.guard? r.action?).isActive = d.isActive := by
    simp [isActive, inlined]
  rw [faults, faults, hactive]
  simp only [inlined, List.flatMap_map, TransitionDraft.faults_inlined]
  rfl

/-- An inlined draft has the faults that the draft had, and describes the same machine. -/
lemma Draft.inlined_build (d : Draft S C E K O) :
    (d.inlined d.registry.guard? d.registry.action?).build = d.build := by
  have hdeclared : (d.inlined d.registry.guard? d.registry.action?).declared = d.declared := by
    simp [declared, inlined, StateDraft.inlined]
  have hfaults : (d.inlined d.registry.guard? d.registry.action?).faults = d.faults := by
    rw [faults, faults, hdeclared]
    simp only [inlined, List.flatMap_map, StateDraft.faults_inlined,
      TransitionDraft.faults_inlined]
    rfl
  have hcompile : (d.inlined d.registry.guard? d.registry.action?).compile = d.compile := by
    have hplacements : (d.inlined d.registry.guard? d.registry.action?).placements =
        d.placements := by
      simp only [placements, inlined, List.flatMap_map, List.map_map, Function.comp_def,
        StateDraft.placements_inlined, TransitionDraft.resolve_inlined]
    have hframe : (d.inlined d.registry.guard? d.registry.action?).frame = d.frame := by
      simp [frame, inlined, StateDraft.inlined, Function.comp_def]
    rw [compile, compile, hplacements, hframe]
  rw [build, build, hfaults, hcompile]

end

/-! ## The draft of an inlined manuscript -/

section

variable (guards : String → Option (Guard C E)) (actions : String → Option (Action C E O))

lemma StateClause.foldl_heed_inlined (d : StateDraft S C E K O)
    (clauses : List (StateClause S C E K O)) :
    (clauses.map (inlined guards actions)).foldl heed (d.inlined guards actions) =
      (clauses.foldl heed d).inlined guards actions := by
  induction clauses generalizing d with
  | nil => rfl
  | cons clause clauses ih =>
    have hclause : heed (d.inlined guards actions) (clause.inlined guards actions) =
        (heed d clause).inlined guards actions := by
      cases clause <;> simp [heed, inlined, StateDraft.inlined, StateDraft.onKind,
        StateDraft.eventless, StateDraft.invoke, StateDraft.final]
    rw [List.map_cons, List.foldl_cons, hclause]
    exact ih (heed d clause)

lemma Declaration.draft_inlined [Label S] (d : Declaration S C E K O) :
    (d.inlined guards actions).draft = d.draft.inlined guards actions :=
  StateClause.foldl_heed_inlined guards actions (.new d.state) d.clauses

lemma Line.foldl_heed_inlined [Label S] (d : Draft S C E K O) (lines : List (Line S C E K O)) :
    ((lines.filterMap (inlined? guards actions)).map clause).foldl Clause.heed
        (d.inlined guards actions) =
      ((lines.map clause).foldl Clause.heed d).inlined guards actions := by
  induction lines generalizing d with
  | nil => rfl
  | cons line lines ih =>
    rw [List.map_cons, List.foldl_cons, ← ih]
    cases line with
    | withId id => rfl
    | state declaration =>
      have hdraft : (d.inlined guards actions).state declaration.state
            (fun s => (declaration.inlined guards actions).clauses.foldl StateClause.heed s) =
          (d.state declaration.state
            fun s => declaration.clauses.foldl StateClause.heed s).inlined guards actions := by
        have h := declaration.draft_inlined guards actions
        rw [Declaration.draft, Declaration.draft] at h
        simp only [Draft.state, Draft.inlined, List.map_append, List.map_cons, List.map_nil]
        rw [← h]
        rfl
      exact congrArg (List.foldl Clause.heed · _) hdraft
    | on kind t =>
      have hdraft : (d.inlined guards actions).on kind (t.inlined guards actions) =
          (d.on kind t).inlined guards actions := by
        simp [Draft.on, Draft.inlined]
      exact congrArg (List.foldl Clause.heed · _) hdraft
    | register registration => cases registration <;> rfl

end

/-- The transitions of a description are those of its draft. -/
lemma Description.hasTransition_iff [Label S] {m : Description S C E K O}
    {t : TransitionDraft S C E O} : m.HasTransition t ↔
      (∃ s ∈ m.draft.states, (∃ kind, (kind, t) ∈ s.on) ∨ t ∈ s.always) ∨
        ∃ kind, (kind, t) ∈ m.draft.shared := by
  simp [HasTransition]

namespace Manuscript

variable [Label S] (w : Manuscript S C E K O)

lemma draft_inlined :
    w.inlined.description.draft = w.description.draft.inlined w.guard? w.action? :=
  Line.foldl_heed_inlined w.guard? w.action? { initial := w.initial, context := w.context } w.lines

/-- The transitions of an inlined manuscript are those of the manuscript, inlined. -/
lemma hasTransition_inlined {t : TransitionDraft S C E O}
    (h : w.inlined.description.HasTransition t) :
    ∃ t', w.description.HasTransition t' ∧ t = t'.inlined w.guard? w.action? := by
  simp only [Description.hasTransition_iff, draft_inlined, Draft.inlined, List.mem_map] at h ⊢
  obtain ⟨-, ⟨s, hs, rfl⟩, ⟨kind, ht⟩ | ht⟩ | ⟨kind, ⟨_, t'⟩, ht, rfl, rfl⟩ := h
  · obtain ⟨⟨_, t'⟩, ht', heq⟩ := List.mem_map.mp ht
    cases heq
    exact ⟨t', .inl ⟨s, hs, .inl ⟨_, ht'⟩⟩, rfl⟩
  · obtain ⟨t', ht', rfl⟩ := List.mem_map.mp ht
    exact ⟨t', .inl ⟨s, hs, .inr ht'⟩, rfl⟩
  · exact ⟨t', .inr ⟨_, ht⟩, rfl⟩

/-- A transition whose references do not dangle is inlined in full. -/
lemma isInline_inlined {t : TransitionDraft S C E O} (h : ¬w.description.Dangling t) :
    (t.inlined w.guard? w.action?).IsInline := by
  simp only [Description.Dangling, not_or, not_exists, not_and, not_not] at h
  obtain ⟨-, hguards, hactions⟩ := h
  constructor
  · intro name hname
    obtain ⟨reference, hguard, hreference⟩ := Option.map_eq_some_iff.mp hname
    cases reference with
    | inline g => cases hreference
    | named name' =>
      have hsome := (w.description.draft_guard?).mpr (hguards name' hguard)
      rw [w.draft_guard?] at hsome
      obtain ⟨g, hg⟩ := Option.isSome_iff_exists.mp hsome
      rw [Reference.inlined, hg] at hreference
      cases hreference
  · intro name hname
    obtain ⟨reference, haction, hreference⟩ := List.mem_map.mp hname
    cases reference with
    | inline a => cases hreference
    | named name' =>
      have hsome := (w.description.draft_action?).mpr (hactions name' haction)
      rw [w.draft_action?] at hsome
      obtain ⟨a, ha⟩ := Option.isSome_iff_exists.mp hsome
      rw [Reference.inlined, ha] at hreference
      cases hreference

variable {w} [DecidableEq S] [DecidableEq K] [Kinded E K]

/-- **A machine does not depend on the names that it was described with.**  Let a manuscript be
built without faults, wherever in it the guards and the actions are registered, one by one or by
merging registries, and let every name that is used be replaced by what was registered under it
last, among the guards or among the actions.  What comes of it has no name left in any of its
transitions and registers nothing, and it is built too, to the same machine, which thus selects the
same transitions, leads to the same positions and runs in the same way. -/
theorem build_inlined {d : Definition S C E K O} (h : w.description.draft.build = .ok d) :
    (∀ t, w.inlined.description.HasTransition t → t.IsInline) ∧ w.inlined.registrations = [] ∧
      w.inlined.description.draft.build = .ok d := by
  refine ⟨?_, ?_, ?_⟩
  · intro t ht
    obtain ⟨t', ht', rfl⟩ := w.hasTransition_inlined ht
    exact w.isInline_inlined ((w.description.faultless_of_build h).1.closed ht')
  · refine List.flatMap_eq_nil_iff.mpr fun line hline => ?_
    obtain ⟨line', -, hline'⟩ := List.mem_filterMap.mp hline
    cases line' <;> cases hline' <;> rfl
  · rw [draft_inlined, ← w.draft_guard?, ← w.draft_action?, Draft.inlined_build, h]

end Manuscript

namespace Lamp

/-- The action that adds to the count. -/
def adding (n : Nat) : Action Nat Event Unit := .assign fun count _ => count + n

/-- A lamp with one name for a guard and for an action.  The name is used before the guard that is
meant by it is merged, in a registry within a registry, and before the action that is meant by it is
registered. -/
def manuscript : Manuscript State Nat Event Event Unit where
  initial := .off
  context := 0
  lines :=
    [.register (.guard "ready" fun _ _ => false),
      .state ⟨.off, [.on .press
        (((TransitionDraft.goto .warm).withGuardNamed "ready").withActionNamed "ready")]⟩,
      .register (.merge [.action "ready" (adding 1),
        .merge [.guard "ready" fun count _ => count < 2]]),
      .state ⟨.warm, []⟩,
      .register (.action "ready" (adding 5))]

end Lamp

open Lamp in
theorem Manuscript.build_inlined_lamp : ∃ d, manuscript.description.draft.build = .ok d ∧
    manuscript.inlined.description.draft.build = .ok d ∧
    d.transition { state := .off, context := 0, done := false } .press =
      some { state := .warm, context := 5, done := false } ∧
    ∀ t, manuscript.inlined.description.HasTransition t → t.IsInline := by
  have hbuild : manuscript.description.draft.build = .ok manuscript.description.draft.compile :=
    if_pos (by decide)
  obtain ⟨hinline, -, hinlined⟩ := Manuscript.build_inlined hbuild
  exact ⟨_, hbuild, hinlined, rfl, hinline⟩

end Macrostep
