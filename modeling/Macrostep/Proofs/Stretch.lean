/-
# Stretches of a run

A running interpreter walks the steps that its definition prescribes.  `Interpreter.Stretch it legs
work it'` says that it went from `it` to `it'` by the steps `legs`: the snapshot is the end of
`legs`, the journal tells of the work on them alone, and an effect was attempted for each position
entered whose state invokes one, under the next number and with the context of that position.
Whatever user code did on the way has no part in that.

Stretches compose; taking a transition is a stretch of one step (`Interpreter.take_stretch`), and
taking eventless transitions is the stretch that the definition alone computes
(`Interpreter.settle_stretch`).
-/
import Macrostep.Proofs.Chain
import Macrostep.Proofs.Taking

namespace Macrostep

open Occurrence

/-- The attempts to start an effect in each of the positions in a list, numbered onward from `n`. -/
def numbered {S C : Type} : Nat → List (Snapshot S C) → List (S × C × Nat)
  | _, [] => []
  | n, s :: rest => (s.state, s.context, n + 1) :: numbered (n + 1) rest

lemma numbered_append {S C : Type} (n : Nat) (l more : List (Snapshot S C)) :
    numbered n (l ++ more) = numbered n l ++ numbered (n + l.length) more := by
  induction l generalizing n with
  | nil => rfl
  | cons s l ih => simp [numbered, ih, Nat.add_assoc, Nat.add_comm 1]

/-- The numbers are consecutive. -/
lemma map_number_numbered {S C : Type} (n : Nat) (l : List (Snapshot S C)) :
    (numbered n l).map (·.2.2) = List.range' (n + 1) l.length := by
  induction l generalizing n with
  | nil => rfl
  | cons s l ih => simp [numbered, ih, List.range'_succ]

/-- The work on entering the positions `entered`, in an interpreter that has attempted `n` starts
before it and `n'` after it. -/
structure Effort {S C E K O : Type} [DecidableEq S] (d : Definition S C E K O) (n : Nat)
    (entered : List (Snapshot S C)) (work : List (Occurrence S C E O)) (n' : Nat) : Prop where
  isWork : ∀ o ∈ work, o.isWork = true
  attempts : work.filterMap attempt? = numbered n (entered.filter d.invokes)
  count : n' = n + (entered.filter d.invokes).length

namespace Effort

variable {S C E K O : Type} [DecidableEq S] {d : Definition S C E K O} {n n' n'' : Nat}
  {entered more : List (Snapshot S C)} {work work' : List (Occurrence S C E O)}

lemma trans (h : Effort d n entered work n') (h' : Effort d n' more work' n'') :
    Effort d n (entered ++ more) (work ++ work') n'' where
  isWork := by
    intro o ho
    rcases List.mem_append.mp ho with ho | ho
    · exact h.isWork o ho
    · exact h'.isWork o ho
  attempts := by
    rw [List.filterMap_append, h.attempts, h'.attempts, List.filter_append, numbered_append,
      h.count]
  count := by
    rw [h'.count, h.count, List.filter_append, List.length_append, Nat.add_assoc]

/-- Work without an attempt. -/
lemma idle (h : ∀ o ∈ work, o.isWork = true ∧ o.attempt? = none) : Effort d n [] work n where
  isWork o ho := (h o ho).1
  attempts := List.filterMap_eq_nil_iff.mpr fun o ho => (h o ho).2
  count := rfl

lemma reports (h : ∀ o ∈ work, o.isReport = true) : Effort d n [] work n :=
  idle fun o ho => ⟨isWork_of_isReport (h o ho), attempt?_of_isLife (isLife_of_isReport (h o ho))⟩

lemma single {o : Occurrence S C E O} (hwork : o.isWork = true) (hno : o.attempt? = none) :
    Effort d n [] [o] n :=
  idle fun _ ho' => List.mem_singleton.mp ho' ▸ ⟨hwork, hno⟩

/-- An attempt to start the effect of a position. -/
lemma attempt {s : Snapshot S C} (h : d.invokes s = true) :
    Effort d n [s] [(.launching s.state s.context (n + 1) : Occurrence S C E O)] (n + 1) where
  isWork o' ho' := by rw [List.mem_singleton.mp ho']; rfl
  attempts := by simp [h, numbered, attempt?]
  count := by simp [h]

end Effort

namespace Interpreter

variable {S C E K O : Type} [DecidableEq S] {it it' it'' : Interpreter S C E K O}
  {work : List (Occurrence S C E O)} {n : Nat} {d : Definition S C E K O}

lemma Releasing.effort {failure : Option EffectError} (h : Releasing it work it' failure) :
    Effort d n [] work n := by
  cases h with
  | idle hno => exact .reports (by simp)
  | clean hactive hreports => exact (Effort.single rfl rfl).trans (.reports hreports)

lemma Leaving.effort (h : Leaving it work it') : Effort d n [] work n := by
  cases h with
  | smoothly hrelease => exact hrelease.effort
  | failing hrelease => exact hrelease.effort.trans (.single rfl rfl)

/-- Whoever enters a state attempts to start its effect. -/
lemma Launching.effort (h : Launching it work it') :
    Effort it.definition it.generation [it.snapshot] work it'.generation := by
  cases h with
  | quiet hno =>
    have hfilter : [it.snapshot].filter it.definition.invokes = [] := by
      simpa [Definition.invokes, state] using hno
    exact ⟨by simp, by rw [hfilter]; rfl, by rw [hfilter]; rfl⟩
  | success heffect hresult hreports =>
    have hinvokes : it.definition.invokes it.snapshot = true := by
      simp only [Definition.invokes]
      exact Option.isSome_of_eq_some heffect
    exact (Effort.attempt hinvokes).trans ((Effort.reports hreports).trans (.single rfl rfl))
  | failure heffect hresult hreports =>
    have hinvokes : it.definition.invokes it.snapshot = true := by
      simp only [Definition.invokes]
      exact Option.isSome_of_eq_some heffect
    exact (Effort.attempt hinvokes).trans ((Effort.reports hreports).trans (.single rfl rfl))

/-! ## Stretches -/

/-- The interpreter went from `it` to `it'` by the steps `legs`, and the journal tells of `work`. -/
structure Stretch (it : Interpreter S C E K O) (legs : List (Leg S C E O))
    (work : List (Occurrence S C E O)) (it' : Interpreter S C E K O) : Prop extends
    it.Kept it' where
  snapshot : it'.snapshot = Leg.endOf it.snapshot legs
  adds : it.Adds work it'
  effort : Effort it.definition it.generation (legs.filterMap Leg.entered?) work it'.generation

namespace Stretch

variable {legs more : List (Leg S C E O)} {work' : List (Occurrence S C E O)}

lemma refl (it : Interpreter S C E K O) : it.Stretch [] [] it where
  toKept := ⟨rfl, rfl, rfl, rfl, rfl, rfl, rfl, rfl⟩
  snapshot := rfl
  adds := Adds.refl it
  effort := .reports (by simp)

lemma trans (h : it.Stretch legs work it') (h' : it'.Stretch more work' it'') :
    it.Stretch (legs ++ more) (work ++ work') it'' where
  toKept := h.toKept.trans h'.toKept
  snapshot := by rw [h'.snapshot, h.snapshot, Leg.endOf_append]
  adds := h.adds.trans h'.adds
  effort := by
    have hmore := h'.effort
    rw [h.definition] at hmore
    rw [List.filterMap_append]
    exact h.effort.trans hmore

end Stretch

/-- Whether the snapshot says rightly if the machine is done. -/
def Proper (it : Interpreter S C E K O) : Prop :=
  it.snapshot.done = it.definition.isFinal it.state

variable [Kinded E K]

namespace Taking

variable {t : Transition S C E O} {event : Option E}

lemma kept (h : Taking it t event work it') : it.Kept it' := by
  cases h with
  | inside htarget hreports => exact ⟨rfl, rfl, rfl, rfl, rfl, rfl, rfl, rfl⟩
  | across htarget hreports hleave hlaunch =>
    exact (((Kept.queue it _ _).trans hleave.stays.toKept).trans (enter_kept ..)).trans
      hlaunch.stays.toKept

/-- Taking a transition leads to the position that the definition prescribes. -/
lemma snapshot (hproper : it.Proper) (h : Taking it t event work it') :
    it'.snapshot = it.definition.apply t event it.snapshot := by
  cases h with
  | inside htarget hreports =>
    have hdone : it.snapshot.done = it.definition.isFinal it.snapshot.state := hproper
    rw [it.definition.apply_of_no_target htarget, ← hdone]
    rfl
  | across htarget hreports hleave hlaunch =>
    rw [it.definition.apply_of_target htarget, hlaunch.stays.snapshot,
      hleave.stays.definition]
    rfl

/-- The work on a transition enters what the transition enters. -/
lemma effort (h : Taking it t event work it') :
    Effort it.definition it.generation
      (([⟨t, it.definition.apply t event it.snapshot⟩] : List (Leg S C E O)).filterMap Leg.entered?)
      work it'.generation := by
  cases h with
  | inside htarget hreports =>
    have hentered : Leg.entered? ⟨t, it.definition.apply t event it.snapshot⟩ = none := by
      simp [Leg.entered?, htarget]
    rw [List.filterMap_cons_none hentered]
    exact .reports hreports
  | across htarget hreports hleave hlaunch =>
    have hentered : Leg.entered? ⟨t, it.definition.apply t event it.snapshot⟩ =
        some (it.definition.apply t event it.snapshot) := by
      simp [Leg.entered?, htarget]
    have hdefinition := hleave.stays.definition
    have hgeneration := hleave.generation_eq
    have hbegun := hlaunch.effort
    rw [enter_eq] at hbegun
    simp only at hdefinition hgeneration hbegun
    rw [hdefinition, hgeneration] at hbegun
    rw [List.filterMap_cons_some hentered, it.definition.apply_of_target htarget]
    exact ((Effort.reports hreports).trans hleave.effort).trans
      ((Effort.single rfl rfl).trans hbegun)

end Taking

/-- Taking a transition is the one step that the definition prescribes. -/
theorem take_stretch (hproper : it.Proper) (t : Transition S C E O) (event : Option E) :
    ∃ work, it.Stretch [⟨t, it.definition.apply t event it.snapshot⟩] work (it.take t event) := by
  obtain ⟨work, htaking, hadds⟩ := take_spec it t event
  exact ⟨work, htaking.kept, htaking.snapshot hproper, hadds, htaking.effort⟩

lemma proper_take (hproper : it.Proper) (t : Transition S C E O) (event : Option E) :
    (it.take t event).Proper := by
  obtain ⟨work, htake⟩ := take_stretch hproper t event
  rw [Proper, state, htake.snapshot, htake.definition]
  rfl

/-! ## Eventless transitions -/

section

variable [Label S]

/-- How eventless transitions end in a position: well if the machine rests there. -/
def verdict (it : Interpreter S C E K O) (s : Snapshot S C) : Except InterpreterError Unit :=
  if it.definition.rests s then .ok ()
  else .error (.nonTerminatingChain (Label.name s.state) it.options.maxEventlessSteps)

omit [Kinded E K] in
lemma verdict_congr (h : it.Kept it') (s : Snapshot S C) : it'.verdict s = it.verdict s := by
  rw [verdict, verdict, h.definition, h.options]

lemma settleWithin_of_none (h : it.definition.selectEventless it.state it.context = none)
    (steps : Nat) : it.settleWithin steps = (it, .ok ()) := by
  rw [settleWithin.eq_def]
  dsimp only
  rw [h]

lemma settleWithin_zero_of_some {t : Transition S C E O}
    (h : it.definition.selectEventless it.state it.context = some t) :
    it.settleWithin 0 =
      (it.log (.unsettled it.state it.options.maxEventlessSteps),
        .error (.nonTerminatingChain (Label.name it.state) it.options.maxEventlessSteps)) := by
  rw [settleWithin.eq_def]
  dsimp only
  rw [h]

lemma settleWithin_succ_of_some {t : Transition S C E O}
    (h : it.definition.selectEventless it.state it.context = some t) (steps : Nat) :
    it.settleWithin (steps + 1) = (it.take t none).settleWithin steps := by
  rw [settleWithin.eq_def]
  dsimp only
  rw [h]

/-- Whatever taking a transition keeps, and writing down that a chain was cut, is kept by taking
eventless transitions. -/
theorem settleWithin_induction {P : Interpreter S C E K O → Prop} {it : Interpreter S C E K O}
    (h : P it) (htake : ∀ it t, P it → P (it.take t none))
    (hcut : ∀ it steps, P it → P (it.log (.unsettled it.state steps))) (steps : Nat) :
    P (it.settleWithin steps).1 := by
  induction steps generalizing it with
  | zero =>
    cases hsel : it.definition.selectEventless it.state it.context with
    | none => rwa [settleWithin_of_none hsel]
    | some t =>
      rw [settleWithin_zero_of_some hsel]
      exact hcut it _ h
  | succ steps ih =>
    cases hsel : it.definition.selectEventless it.state it.context with
    | none => rwa [settleWithin_of_none hsel]
    | some t =>
      rw [settleWithin_succ_of_some hsel]
      exact ih (htake it t h)

/-- Taking eventless transitions is the chain that the definition computes, and it fails exactly if
the machine does not rest at the end. -/
theorem settleWithin_stretch (hproper : it.Proper) (steps : Nat) :
    (∃ work, it.Stretch (it.definition.chain steps it.snapshot) work (it.settleWithin steps).1) ∧
      (it.settleWithin steps).2 =
        it.verdict (Leg.endOf it.snapshot (it.definition.chain steps it.snapshot)) := by
  induction steps generalizing it with
  | zero =>
    cases hsel : it.definition.selectEventless it.state it.context with
    | none =>
      rw [settleWithin_of_none hsel]
      simp only [verdict, Definition.chain, Leg.endOf_nil,
        Definition.rests_of_selectEventless hsel, if_true]
      exact ⟨⟨[], Stretch.refl it⟩, trivial⟩
    | some t =>
      -- the steps are used up while a transition is still enabled
      rw [settleWithin_zero_of_some hsel]
      simp only [verdict, Definition.chain, Leg.endOf_nil,
        Definition.not_rests_of_selectEventless hsel]
      exact ⟨⟨_, Kept.queue it it.inbox _, rfl, Adds.log it rfl rfl, .single rfl rfl⟩, rfl⟩
  | succ steps ih =>
    cases hsel : it.definition.selectEventless it.state it.context with
    | none =>
      rw [settleWithin_of_none hsel, Definition.chain]
      simp only [show it.definition.selectEventless it.snapshot.state it.snapshot.context = none
        from hsel, verdict, Leg.endOf_nil, Definition.rests_of_selectEventless hsel, if_true]
      exact ⟨⟨[], Stretch.refl it⟩, trivial⟩
    | some t =>
      -- the first step is taken, and the rest of the chain begins where it leads to
      obtain ⟨work, htake⟩ := take_stretch hproper t none
      obtain ⟨⟨rest, hrest⟩, hend⟩ := ih (proper_take hproper t none)
      rw [htake.definition, htake.snapshot] at hrest hend
      rw [settleWithin_succ_of_some hsel, Definition.chain]
      simp only [show it.definition.selectEventless it.snapshot.state it.snapshot.context = some t
        from hsel]
      exact ⟨⟨work ++ rest, htake.trans hrest⟩, hend.trans (verdict_congr htake.toKept _)⟩

/-- Taking eventless transitions, as many as the options allow. -/
theorem settle_stretch (hproper : it.Proper) :
    let legs := it.definition.chain it.options.maxEventlessSteps it.snapshot
    (∃ work, it.Stretch legs work it.settle.1) ∧
      it.settle.2 = it.verdict (Leg.endOf it.snapshot legs) :=
  settleWithin_stretch hproper it.options.maxEventlessSteps

lemma proper_settle (hproper : it.Proper) : it.settle.1.Proper :=
  settleWithin_induction hproper (fun _ t h => proper_take h t none) (fun _ _ h => h) _

end

/-! ## Publication -/

omit [DecidableEq S] [Kinded E K]

/-- What publication leaves alone. -/
structure Shows (it it' : Interpreter S C E K O) : Prop where
  definition : it'.definition = it.definition
  options : it'.options = it.options
  status : it'.status = it.status
  snapshot : it'.snapshot = it.snapshot
  history : it'.history = it.history
  nextSubscription : it'.nextSubscription = it.nextSubscription
  effect : it'.effect = it.effect
  generation : it'.generation = it.generation
  warnings : it'.warnings = it.warnings
  now : it'.now = it.now
  timers : it'.timers = it.timers

lemma showTo_frame (it : Interpreter S C E K O) (subscriber : Subscriber S C E O) :
    ∃ inbox recorded, it.showTo subscriber = { it with inbox, recorded } :=
  performAll_frame (it.log (.observed subscriber.id it.snapshot)) .external _

/-- What an observer is shown is written down beside what it does. -/
lemma showTo_adds (it : Interpreter S C E K O) (subscriber : Subscriber S C E O) :
    ∃ shown, (∀ o ∈ shown, o.isAside = true) ∧ it.Adds shown (it.showTo subscriber) := by
  refine ⟨_, ?_, (Adds.log it rfl rfl).trans (performAll_adds _ _ _)⟩
  intro o ho
  rcases List.mem_append.mp ho with ho | ho
  · rw [List.mem_singleton.mp ho]
    rfl
  · exact isAside_of_isReport (forall_isReport_map _ _ _ o ho)

/-- Showing the snapshot to a list of observers adds to the journal and to the inbox alone. -/
lemma foldl_showTo (it : Interpreter S C E K O) (subscribers : List (Subscriber S C E O)) :
    ∃ shown inbox recorded, (∀ o ∈ shown, o.isAside = true) ∧
      subscribers.foldl showTo it = { it with inbox, recorded } ∧
      it.Adds shown (subscribers.foldl showTo it) := by
  induction subscribers generalizing it with
  | nil => exact ⟨[], it.inbox, it.recorded, by simp, rfl, Adds.refl it⟩
  | cons subscriber subscribers ih =>
    obtain ⟨first, hfirst, hadds⟩ := showTo_adds it subscriber
    obtain ⟨_, _, hframe⟩ := showTo_frame it subscriber
    obtain ⟨rest, inbox, recorded, hrest, hframe', hadds'⟩ := ih (it.showTo subscriber)
    refine ⟨first ++ rest, inbox, recorded, ?_, ?_, hadds.trans hadds'⟩
    · intro o ho
      exact (List.mem_append.mp ho).elim (hfirst o) (hrest o)
    · rw [List.foldl_cons, hframe', hframe]

/-- Publication tells the snapshot once, to the watched value and to every observer. -/
theorem emit_spec (it : Interpreter S C E K O) :
    ∃ shown, (∀ o ∈ shown, o.isAside = true) ∧ it.Adds (.emitted it.snapshot :: shown) it.emit ∧
      it.Shows it.emit ∧ it.emit.watched = ⟨it.snapshot, it.watched.version + 1⟩ ∧
      it.emit.subscribers =
        it.subscribers.map fun s => { s with seen := it.snapshot :: s.seen } := by
  let told : Interpreter S C E K O :=
    { it with watched := ⟨it.snapshot, it.watched.version + 1⟩ }.log (.emitted it.snapshot)
  have htold : it.Adds [.emitted it.snapshot] told :=
    (Adds.log it rfl rfl).congr rfl rfl rfl rfl
  obtain ⟨shown, inbox, recorded, hshown, hframe, hadds⟩ := foldl_showTo told it.subscribers
  have hemit : it.emit =
      { told with
        inbox, recorded
        subscribers := it.subscribers.map fun s => { s with seen := it.snapshot :: s.seen } } := by
    have hnotify : it.emit =
        { it.subscribers.foldl showTo told with
          subscribers := it.subscribers.map fun s => { s with seen := it.snapshot :: s.seen } } :=
      rfl
    rw [hnotify, hframe]
  have hshow : told.Adds shown it.emit :=
    hadds.congr rfl rfl (by rw [hemit, hframe]) (by rw [hemit, hframe])
  have hall := htold.trans hshow
  refine ⟨shown, hshown, hall, ?_, ?_, ?_⟩
  · rw [hemit]
    exact ⟨rfl, rfl, rfl, rfl, rfl, rfl, rfl, rfl, rfl, rfl, rfl⟩
  · rw [hemit]
    rfl
  · rw [hemit]

end Interpreter

end Macrostep
