/-
# Tables of machines

A reference stands for what is given at its place, or for what its name was given last, be it in a
clause of its own or together with a whole registry.  That is said of a description and of nothing
that is made of it (`Reference.StandsFor`), and so is what transition a declared one describes: the
same target, the guard that stands there, and the actions that stand there, in order
(`Description.Describes`).

The tables of a machine that was built agree with its description: they hold the declared states and
no others, and for each of them the transitions that are described for a kind of event, its own
before the shared ones, those that are described without an event, and the effect, all in the order
in which they were asked for (`Description.tables_agree`).
-/
import Mathlib.Data.List.Forall2
import Macrostep.Proofs.BuildFaults
import Macrostep.Proofs.Course
import Macrostep.Proofs.Placements

namespace Macrostep

variable {S C E K O : Type}

/-! ## What a description says of its tables -/

/-- The effect that is asked for. -/
def StateClause.invoke? : StateClause S C E K O → Option (Effect C E O)
  | invoke effect => some effect
  | _ => none

/-- The effects that are asked for, in order. -/
def Declaration.effects (d : Declaration S C E K O) : List (Effect C E O) :=
  d.clauses.filterMap StateClause.invoke?

namespace Clause

/-- The guard that is given a name. -/
def guardNamed? (name : String) : Clause S C E K O → Option (Guard C E)
  | guard name' g => if name' = name then some g else none
  | implementations registry => registry.guard? name
  | _ => none

/-- The action that is given a name. -/
def actionNamed? (name : String) : Clause S C E K O → Option (Action C E O)
  | action name' a => if name' = name then some a else none
  | implementations registry => registry.action? name
  | _ => none

end Clause

/-- A reference stands for what is given at its place, or for what its name means. -/
def Reference.StandsFor {T : Type} (meaning : String → Option T) : Reference T → T → Prop
  | inline value, value' => value' = value
  | named name, value' => meaning name = some value'

namespace Description

/-- The guard that a name was given last. -/
def guardNamed? (m : Description S C E K O) (name : String) : Option (Guard C E) :=
  (m.clauses.filterMap (Clause.guardNamed? name)).getLast?

/-- The action that a name was given last. -/
def actionNamed? (m : Description S C E K O) (name : String) : Option (Action C E O) :=
  (m.clauses.filterMap (Clause.actionNamed? name)).getLast?

/-- The transition that is described by a declared one: it leads to the same state, it has the guard
that stands there, if one does, and the actions that stand there, in order. -/
structure Describes (m : Description S C E K O) (t : TransitionDraft S C E O)
    (t' : Transition S C E O) : Prop where
  target : t'.target = t.target
  guard : Option.Rel (Reference.StandsFor m.guardNamed?) t.guard t'.guard
  actions : List.Forall₂ (Reference.StandsFor m.actionNamed?) t.actions t'.actions

variable [Label S] (m : Description S C E K O)

/-- The transitions that are declared for a state and a kind of event: those of the state before the
shared ones, and each in order. -/
def candidates [DecidableEq K] (dec : Declaration S C E K O) (kind : K) :
    List (TransitionDraft S C E O) :=
  ((dec.on ++ m.shared).filter fun entry => entry.1 = kind).map Prod.snd

variable [DecidableEq S] [DecidableEq K] [Kinded E K]

/-- What the tables of a machine say of a declared state. -/
structure Tabled (d : Definition S C E K O) (dec : Declaration S C E K O) : Prop where
  isFinal : d.isFinal dec.state = true ↔ dec.IsFinal
  /-- A final state accepts nothing. -/
  select_of_final (hfinal : dec.IsFinal) (context : C) (event : E) :
    d.select dec.state context event = none
  /-- Any other state accepts the first enabled one of the transitions that the candidates
  describe. -/
  select (hfinal : ¬dec.IsFinal) (event : E) : ∃ ts,
    List.Forall₂ m.Describes (m.candidates dec (Kinded.kind event)) ts ∧
      ∀ context, d.select dec.state context event =
        ts.find? fun t => t.isEnabled context (some event)
  /-- A disabled candidate hides no other. -/
  accepts (hfinal : ¬dec.IsFinal) (context : C) (event : E) {t : TransitionDraft S C E O}
    {t' : Transition S C E O} (ht : t ∈ m.candidates dec (Kinded.kind event))
    (hdescribes : m.Describes t t') (henabled : t'.isEnabled context (some event) = true) :
    (d.select dec.state context event).isSome = true
  /-- Without an event the first enabled one of the transitions is due that are described without
  an event. -/
  selectEventless : ∃ ts, List.Forall₂ m.Describes dec.always ts ∧
    ∀ context, d.selectEventless dec.state context = ts.find? fun t => t.isEnabled context none
  /-- Of several effects the last one counts. -/
  effect : d.effect? dec.state = dec.effects.getLast?

end Description

/-! ## What references stand for -/

/-- The last value in a list takes the place of those before it. -/
lemma getLast?_filterMap_cons {A B : Type} (f : A → Option B) (a : A) (l : List A)
    (before : Option B) : ((a :: l).filterMap f).getLast?.or before =
      (l.filterMap f).getLast?.or ((f a).or before) := by
  rw [List.filterMap_cons]
  cases f a with
  | none => rfl
  | some b =>
    rw [List.getLast?_cons]
    cases (l.filterMap f).getLast? <;> rfl

/-- A reference stands for one thing at most. -/
lemma Reference.StandsFor.unique {T : Type} {meaning : String → Option T} {ref : Reference T}
    {v v' : T} (h : ref.StandsFor meaning v) (h' : ref.StandsFor meaning v') : v = v' := by
  cases ref with
  | inline value => exact h.trans h'.symm
  | named name => exact Option.some.inj (h.symm.trans h')

/-- A declared transition describes one transition at most. -/
lemma Description.Describes.unique {m : Description S C E K O} {t : TransitionDraft S C E O}
    {t' t'' : Transition S C E O} (h : m.Describes t t') (h' : m.Describes t t'') : t' = t'' := by
  obtain ⟨guard, actions, target⟩ := t'
  obtain ⟨guard', actions', target'⟩ := t''
  obtain rfl : target = target' := h.target.trans h'.target.symm
  obtain rfl : guard = guard' := by
    have hfirst : Option.Rel _ _ guard := h.guard
    have hsecond : Option.Rel _ _ guard' := h'.guard
    generalize t.guard = ref at hfirst hsecond
    cases hfirst with
    | none =>
      cases hsecond
      rfl
    | some hfirst =>
      cases hsecond with
      | some hsecond => exact congrArg some (hfirst.unique hsecond)
  obtain rfl : actions = actions' :=
    List.right_unique_forall₂'
      (fun (_ : Reference (Action C E O)) _ _ hfirst hsecond => hfirst.unique hsecond)
      h.actions h'.actions
  rfl

namespace Clause

variable [Label S] (d : Draft S C E K O) (clauses : List (Clause S C E K O)) (name : String)

/-- A name takes the place of what it stood for, so the last one to be given it is left. -/
lemma foldl_heed_guard? : (clauses.foldl heed d).registry.guard? name =
    (clauses.filterMap (guardNamed? name)).getLast?.or (d.registry.guard? name) := by
  induction clauses generalizing d with
  | nil => rfl
  | cons clause clauses ih =>
    have hclause : (heed d clause).registry.guard? name =
        (clause.guardNamed? name).or (d.registry.guard? name) := by
      cases clause with
      | guard name' g =>
        by_cases h : name' = name
        · simp [heed, Draft.guard, Registry.withGuard, Registry.guard?, guardNamed?, h]
        · simp [heed, Draft.guard, Registry.withGuard, Registry.guard?, guardNamed?, h,
            List.lookup_cons, beq_eq_false_iff_ne.mpr (Ne.symm h)]
      | implementations registry => exact Registry.guard?_extend ..
      | _ => rfl
    rw [List.foldl_cons, ih, hclause, getLast?_filterMap_cons]

lemma foldl_heed_action? : (clauses.foldl heed d).registry.action? name =
    (clauses.filterMap (actionNamed? name)).getLast?.or (d.registry.action? name) := by
  induction clauses generalizing d with
  | nil => rfl
  | cons clause clauses ih =>
    have hclause : (heed d clause).registry.action? name =
        (clause.actionNamed? name).or (d.registry.action? name) := by
      cases clause with
      | action name' a =>
        by_cases h : name' = name
        · simp [heed, Draft.action, Registry.withAction, Registry.action?, actionNamed?, h]
        · simp [heed, Draft.action, Registry.withAction, Registry.action?, actionNamed?, h,
            List.lookup_cons, beq_eq_false_iff_ne.mpr (Ne.symm h)]
      | implementations registry => exact Registry.action?_extend ..
      | _ => rfl
    rw [List.foldl_cons, ih, hclause, getLast?_filterMap_cons]

end Clause

namespace Description

variable [Label S] {m : Description S C E K O}

/-- When a machine is built, a name stands for the guard that it was given last. -/
lemma draft_guardNamed? (name : String) :
    m.draft.registry.guard? name = m.guardNamed? name :=
  (Clause.foldl_heed_guard? _ m.clauses name).trans (Option.or_none)

lemma draft_actionNamed? (name : String) :
    m.draft.registry.action? name = m.actionNamed? name :=
  (Clause.foldl_heed_action? _ m.clauses name).trans (Option.or_none)

/-- The references of a transition that refers to nothing that there is not are replaced by what
they stand for. -/
lemma describes_resolve {t : TransitionDraft S C E O} (h : ¬m.Dangling t) :
    m.Describes t (t.resolve m.draft.registry) := by
  rw [Dangling, not_or, not_or] at h
  obtain ⟨-, hguard, hactions⟩ := h
  refine ⟨rfl, ?_, ?_⟩
  · change Option.Rel _ t.guard (t.guard.bind (·.resolveGuard? m.draft.registry))
    cases href : t.guard with
    | none => exact .none
    | some ref =>
      cases ref with
      | inline g => exact .some rfl
      | named name =>
        have hname : (m.draft.registry.guard? name).isSome = true :=
          m.draft_guard?.mpr (not_not.mp fun hno => hguard ⟨name, href, hno⟩)
        obtain ⟨g, hg⟩ := Option.isSome_iff_exists.mp hname
        simp only [Option.bind_some, Reference.resolveGuard?, hg]
        exact .some ((draft_guardNamed? name).symm.trans hg)
  · change List.Forall₂ _ t.actions (t.actions.filterMap (·.resolveAction? m.draft.registry))
    generalize t.actions = actions at hactions
    induction actions with
    | nil => exact .nil
    | cons ref actions ih =>
      have hrest := ih fun ⟨name, hmem, hno⟩ =>
        hactions ⟨name, List.mem_cons_of_mem _ hmem, hno⟩
      cases ref with
      | inline a => exact .cons rfl hrest
      | named name =>
        have hname : (m.draft.registry.action? name).isSome = true :=
          m.draft_action?.mpr (not_not.mp fun hno => hactions ⟨name, List.mem_cons_self, hno⟩)
        obtain ⟨a, ha⟩ := Option.isSome_iff_exists.mp hname
        have hresolve : Reference.resolveAction? m.draft.registry (.named name) = some a := ha
        rw [List.filterMap_cons_some hresolve]
        exact .cons ((draft_actionNamed? name).symm.trans ha) hrest

end Description

/-! ## The tables of a draft -/

/-- Effects take each other's place, so the last of those that are asked for is left. -/
lemma StateClause.foldl_heed_effect_eq (d : StateDraft S C E K O)
    (clauses : List (StateClause S C E K O)) :
    (clauses.foldl heed d).effect = (clauses.filterMap invoke?).getLast?.or d.effect := by
  induction clauses generalizing d with
  | nil => rfl
  | cons clause clauses ih =>
    have hclause : (heed d clause).effect = clause.invoke?.or d.effect := by
      cases clause <;> rfl
    rw [List.foldl_cons, ih, hclause, getLast?_filterMap_cons]

lemma Declaration.draft_effect [Label S] (d : Declaration S C E K O) :
    d.draft.effect = d.effects.getLast? := by
  rw [draft, StateClause.foldl_heed_effect_eq]
  exact Option.or_none

namespace Description

variable [Label S] [DecidableEq S] [DecidableEq K] [Kinded E K] {m : Description S C E K O}

omit [DecidableEq S] [Kinded E K] in
/-- The candidates in the tables are those that are declared, resolved. -/
lemma candidates_eq (dec : Declaration S C E K O) (kind : K) :
    (dec.draft.node m.draft.registry).on.candidates kind ++
        m.draft.gathered.shared.candidates kind =
      (m.candidates dec kind).map fun t => t.resolve m.draft.registry := by
  rw [StateDraft.node, Draft.gathered, EventTable.candidates_ofList, EventTable.candidates_ofList,
    dec.draft_on, m.draft_shared, candidates, List.filter_append, List.map_append, List.map_append]
  simp only [List.filter_map, List.map_map, Function.comp_def]

omit [DecidableEq S] [DecidableEq K] [Kinded E K] in
/-- Whatever is declared of a description without faults describes what it is resolved to. -/
lemma Faultless.describes (h : m.Faultless) {ts : List (TransitionDraft S C E O)}
    (hts : ∀ t ∈ ts, m.HasTransition t) :
    List.Forall₂ m.Describes ts (ts.map fun t => t.resolve m.draft.registry) :=
  List.forall₂_map_right_iff.mpr
    (List.forall₂_same.mpr fun t ht => describes_resolve (h.closed (hts t ht)))

/-- The tables of a machine that is built say what its description says. -/
lemma Faultless.tabled (h : m.Faultless) {dec : Declaration S C E K O}
    (hdec : dec ∈ m.declarations) : m.Tabled m.draft.compile dec := by
  have hnodup : m.draft.declared.Nodup := by
    rw [draft_declared]
    exact h.nodup
  have hmem : dec.draft ∈ m.draft.states := by
    rw [draft_states]
    exact List.mem_map_of_mem hdec
  have hnode : m.draft.compile.node? dec.state = some (dec.draft.node m.draft.registry) := by
    rw [← dec.draft_state]
    exact Draft.node?_compile_of_mem hnodup hmem
  have hfinal : (dec.draft.node m.draft.registry).isFinal = true ↔ dec.IsFinal := dec.draft_isFinal
  have hcandidate (kind : K) : ∀ t ∈ m.candidates dec kind, m.HasTransition t := by
    intro t ht
    obtain ⟨⟨kind', t⟩, hentry, rfl⟩ := List.mem_map.mp ht
    rcases List.mem_append.mp (List.mem_of_mem_filter hentry) with hown | hshared
    · exact .inl ⟨dec, hdec, .inl ⟨kind', hown⟩⟩
    · exact .inr ⟨kind', hshared⟩
  have hselect (hno : ¬dec.IsFinal) (context : C) (event : E) :
      m.draft.compile.select dec.state context event =
        ((m.candidates dec (Kinded.kind event)).map fun t => t.resolve m.draft.registry).find?
          fun t => t.isEnabled context (some event) := by
    rw [Definition.select, hnode, ← candidates_eq, Draft.compile_eq _ hnodup]
    exact if_neg (hfinal.not.mpr hno)
  refine ⟨?_, ?_, fun hno event => ?_, ?_, ?_, ?_⟩
  · rw [Definition.isFinal, hnode]
    exact hfinal
  · intro hyes context event
    rw [Definition.select, hnode]
    exact if_pos (hfinal.mpr hyes)
  · exact ⟨_, h.describes (hcandidate _), fun context => hselect hno context event⟩
  · intro hno context event t t' ht hdescribes henabled
    obtain rfl := hdescribes.unique (describes_resolve (h.closed (hcandidate _ t ht)))
    rw [hselect hno]
    exact List.find?_isSome.mpr ⟨_, List.mem_map_of_mem ht, henabled⟩
  · refine ⟨_, h.describes fun t ht => .inl ⟨dec, hdec, .inr ht⟩, fun context => ?_⟩
    rw [Definition.selectEventless, hnode, ← dec.draft_always]
    rfl
  · rw [Definition.effect?, hnode, ← dec.draft_effect]
    rfl

/-- **The tables of a machine agree with its description.**  A machine that was built holds exactly
the declared states, and what is not declared leads nowhere.  A declared state that is final accepts
nothing; any other accepts, of the transitions that are described for the kind of the event, its own
before the shared ones and each in the order in which they were asked for, the first that is
enabled, so that a disabled one hides no other.  A transition that is described has the target that
was declared, the guard that was declared inline or by its name, and all the actions that were, in
order.  Without an event the first enabled one of those described without an event is due, and the
effect is the one that was asked for last. -/
theorem tables_agree {d : Definition S C E K O} (h : m.draft.build = .ok d) :
    (∀ s, d.contains s = true ↔ s ∈ m.states) ∧
    (∀ s, s ∉ m.states → (∀ context event, d.select s context event = none) ∧
      (∀ context, d.selectEventless s context = none) ∧ d.effect? s = none) ∧
    ∀ dec ∈ m.declarations, m.Tabled d dec := by
  obtain ⟨hfaultless, rfl⟩ := m.faultless_of_build h
  have hcontains (s : S) : m.draft.compile.contains s = true ↔ s ∈ m.states := by
    rw [Draft.contains_compile (draft_declared (m := m) ▸ hfaultless.nodup), draft_declared]
  refine ⟨hcontains, ?_, fun dec hdec => hfaultless.tabled hdec⟩
  intro s hs
  have hnode : m.draft.compile.node? s = none :=
    Option.not_isSome_iff_eq_none.mp ((hcontains s).not.mpr hs)
  refine ⟨fun context event => ?_, fun context => ?_, ?_⟩
  · rw [Definition.select, hnode]
    rfl
  · rw [Definition.selectEventless, hnode]
    rfl
  · rw [Definition.effect?, hnode]
    rfl

end Description

namespace Lamp

/-- A state in which a press leads nowhere at first, then, after something about beats, away; on the
way two are added and the result is changed as a name says. -/
def idle : Declaration State Nat Event Event Unit where
  state := .off
  clauses := [.on .press ((TransitionDraft.goto .off).withGuardNamed "lit"), .on .beat {},
    .on .press (((TransitionDraft.goto .warm).assign fun count _ => count + 2).withActionNamed
      "change")]

/-- A lamp with transitions for presses in a state and in every state.  To change means to triple,
which is said last. -/
def sheet : Description State Nat Event Event Unit where
  initial := .off
  context := 0
  clauses := [.action "change" (.assign fun _ _ => 100), .on .press (.goto .on), .state idle,
    .state ⟨.warm, [.invoke { glow with id := "ember" }, .invoke glow]⟩, .state ⟨.on, [.final]⟩,
    .implementations { guards := [("lit", fun count _ => 0 < count)] },
    .action "change" (.assign fun count _ => count * 3)]

end Lamp

open Lamp in
/-- The press is accepted by the second of its candidates, whose two actions are done in order. -/
theorem Description.tables_agree_lamp : ∃ d, sheet.draft.build = .ok d ∧ sheet.Tabled d idle ∧
    d.contains .on = true ∧ d.effect? .warm = some glow ∧
    d.transition { state := .off, context := 0, done := false } .press =
      some { state := .warm, context := 6, done := false } := by
  have hbuild : sheet.draft.build = .ok sheet.draft.compile := if_pos (by decide)
  obtain ⟨hcontains, -, htabled⟩ := Description.tables_agree hbuild
  exact ⟨_, hbuild, htabled idle (.head _), (hcontains .on).mpr (by decide),
    rfl, rfl⟩

end Macrostep
