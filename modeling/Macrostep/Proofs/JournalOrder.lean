/-
# The order of a journal

A journal falls into passages.  A passage is an occurrence beside the machine, or the start up to
its publication, or one event with its verdict, or the stop.  An event is discarded as stale, or it
is not handled, or all the work on it follows and then one publication; nothing else is taken from
the inbox in between.

`Orderly d limit s n journal s' n'` says that a journal consists of passages that lead from
position `s` and `n` attempted starts to position `s'` and `n'` attempted starts.  What is
published in it and which effects are attempted is then a matter of the definition and of the
inputs alone (`Orderly.emitted`, `Orderly.attempts`).  The journal of every course is orderly
(`Interpreter.Course.follows`).
-/
import Macrostep.Proofs.Moves

namespace Macrostep

open Occurrence

open Leg (endOf)

variable {S C E K O : Type}

/-! ## Inputs of a journal -/

lemma inputsOf_cons_of_isAside {o : Occurrence S C E O} (h : o.isAside = true)
    (rest : List (Occurrence S C E O)) : inputsOf (o :: rest) = inputsOf rest := by
  cases o <;> first | rfl | cases h

lemma inputsOf_cons_of_isWork {o : Occurrence S C E O} (h : o.isWork = true)
    (rest : List (Occurrence S C E O)) : inputsOf (o :: rest) = inputsOf rest := by
  cases o <;> first | rfl | cases h

lemma inputsOf_work_append {work : List (Occurrence S C E O)} (h : ∀ o ∈ work, o.isWork = true)
    (rest : List (Occurrence S C E O)) : inputsOf (work ++ rest) = inputsOf rest := by
  induction work with
  | nil => rfl
  | cons o work ih =>
    rw [List.cons_append, inputsOf_cons_of_isWork (h o List.mem_cons_self)]
    exact ih fun o' ho' => h o' (List.mem_cons_of_mem _ ho')

/-- An event is an input unless it is discarded next. -/
lemma inputsOf_taken_cons (envelope : Envelope E) {o : Occurrence S C E O}
    (h : ∀ event generation, o ≠ .stale event generation) (rest : List (Occurrence S C E O)) :
    inputsOf (.taken envelope :: o :: rest) = some envelope.event :: inputsOf (o :: rest) := by
  cases o with
  | stale event generation => exact absurd rfl (h event generation)
  | _ => rfl

lemma inputsOf_taken_work {work : List (Occurrence S C E O)} (h : ∀ o ∈ work, o.isWork = true)
    (envelope : Envelope E) (s : Snapshot S C) (rest : List (Occurrence S C E O)) :
    inputsOf (.taken envelope :: (work ++ .emitted s :: rest)) =
      some envelope.event :: inputsOf rest := by
  have hwork : inputsOf (work ++ .emitted s :: rest) = inputsOf rest :=
    inputsOf_work_append h (.emitted s :: rest)
  cases work with
  | nil => rfl
  | cons o work =>
    have ho := h o List.mem_cons_self
    rw [List.cons_append] at hwork ⊢
    rw [inputsOf_taken_cons envelope (by rintro _ _ rfl; cases ho), hwork]

/-! ## Passages -/

variable [DecidableEq S] [DecidableEq K] [Kinded E K]

/-- A passage of a journal, from position `s` and `n` attempted starts, and the inputs in it. -/
inductive Passage (d : Definition S C E K O) (limit : Nat) (s : Snapshot S C) (n : Nat) :
    List (Occurrence S C E O) → List (Option E) → Snapshot S C → Nat → Prop
  /-- Something happens beside the machine. -/
  | aside {o : Occurrence S C E O} (haside : o.isAside = true) : Passage d limit s n [o] [] s n
  /-- The start. -/
  | opening {work : List (Occurrence S C E O)} {n' : Nat}
      (heffort : Effort d n (s :: (d.respond limit s none).filterMap Leg.entered?) work n') :
      Passage d limit s n
        (.started s.state :: (work ++ [.emitted (endOf s (d.respond limit s none))])) [none]
        (endOf s (d.respond limit s none)) n'
  /-- An event that is discarded. -/
  | stale {envelope : Envelope E} {generation : Nat}
      (horigin : envelope.origin = .effect generation) :
      Passage d limit s n [.taken envelope, .stale envelope.event generation] [] s n
  /-- An event that is not handled. -/
  | unhandled {envelope : Envelope E} (hnone : d.respond limit s (some envelope.event) = []) :
      Passage d limit s n [.taken envelope, .unhandled s.state envelope.event]
        [some envelope.event] s n
  /-- An event that is handled. -/
  | handled {envelope : Envelope E} {legs : List (Leg S C E O)} {work : List (Occurrence S C E O)}
      {n' : Nat} (hlegs : d.respond limit s (some envelope.event) = legs) (hsome : legs ≠ [])
      (heffort : Effort d n (legs.filterMap Leg.entered?) work n') :
      Passage d limit s n (.taken envelope :: (work ++ [.emitted (endOf s legs)]))
        [some envelope.event] (endOf s legs) n'
  /-- The stop. -/
  | closing {work : List (Occurrence S C E O)} (heffort : Effort d n [] work n) :
      Passage d limit s n (work ++ [.stopped s.state]) [] s n

namespace Passage

variable {d : Definition S C E K O} {limit n n' : Nat} {s s' : Snapshot S C}
  {l : List (Occurrence S C E O)} {inputs : List (Option E)}

lemma inputsOf_append (h : Passage d limit s n l inputs s' n') (rest : List (Occurrence S C E O)) :
    inputsOf (l ++ rest) = inputs ++ inputsOf rest := by
  cases h with
  | aside haside => exact inputsOf_cons_of_isAside haside rest
  | opening heffort =>
    rw [List.cons_append, List.append_assoc, inputsOf, inputsOf_work_append heffort.isWork]
    rfl
  | stale horigin => rfl
  | unhandled hnone => rfl
  | handled hlegs hsome heffort =>
    rw [List.cons_append, List.append_assoc]
    exact inputsOf_taken_work heffort.isWork _ _ rest
  | closing heffort =>
    rw [List.append_assoc, inputsOf_work_append heffort.isWork]
    rfl

lemma reached (h : Passage d limit s n l inputs s' n') : s' = d.reached limit s inputs := by
  cases h with
  | unhandled hnone => rw [Definition.reached, hnone]; rfl
  | handled hlegs hsome heffort => rw [← hlegs]; rfl
  | _ => rfl

/-- A passage publishes what the definition prescribes for its inputs. -/
lemma emitted (h : Passage d limit s n l inputs s' n') :
    l.filterMap emitted? = d.published limit s inputs := by
  have hwork {work : List (Occurrence S C E O)} (hw : ∀ o ∈ work, o.isWork = true) :
      work.filterMap emitted? = [] :=
    filterMap_eq_nil_of_class (fun _ => emitted?_of_isWork) hw
  cases h with
  | aside haside =>
    rw [List.filterMap_cons_none (emitted?_of_isAside haside)]
    rfl
  | opening heffort =>
    rw [List.filterMap_cons_none rfl, List.filterMap_append, hwork heffort.isWork]
    rfl
  | stale horigin => rfl
  | unhandled hnone =>
    simp only [Definition.published, hnone]
    rfl
  | handled hlegs hsome heffort =>
    rw [List.filterMap_cons_none rfl, List.filterMap_append, hwork heffort.isWork]
    simp [Definition.published, hlegs, hsome, emitted?]
  | closing heffort =>
    rw [List.filterMap_append, hwork heffort.isWork]
    rfl

/-- A passage attempts to start the effects of the positions that it enters, under the numbers
that follow. -/
lemma attempts (h : Passage d limit s n l inputs s' n') :
    l.filterMap attempt? = numbered n ((d.entered limit s inputs).filter d.invokes) ∧
      n' = n + ((d.entered limit s inputs).filter d.invokes).length := by
  cases h with
  | aside haside =>
    rw [List.filterMap_cons_none (attempt?_of_isLife (isLife_of_isAside haside))]
    exact ⟨rfl, rfl⟩
  | opening heffort =>
    have hentered : d.entered limit s [none] =
        s :: (d.respond limit s none).filterMap Leg.entered? := by
      simp [Definition.entered]
    rw [List.filterMap_cons_none rfl, List.filterMap_append, heffort.attempts, hentered]
    exact ⟨List.append_nil _, heffort.count⟩
  | stale horigin => exact ⟨rfl, rfl⟩
  | unhandled hnone =>
    simp only [Definition.entered, hnone]
    exact ⟨rfl, rfl⟩
  | @handled envelope legs work n' hlegs hsome heffort =>
    have hentered : d.entered limit s [some envelope.event] = legs.filterMap Leg.entered? := by
      simp [Definition.entered, hlegs]
    rw [List.filterMap_cons_none rfl, List.filterMap_append, heffort.attempts, hentered]
    exact ⟨List.append_nil _, heffort.count⟩
  | closing heffort =>
    rw [List.filterMap_append, heffort.attempts]
    exact ⟨rfl, rfl⟩

end Passage

/-! ## Orderly journals -/

/-- A journal that consists of passages, from position `s` and `n` attempted starts to position `s'`
and `n'` attempted starts. -/
inductive Orderly (d : Definition S C E K O) (limit : Nat) :
    Snapshot S C → Nat → List (Occurrence S C E O) → Snapshot S C → Nat → Prop
  | nil (s : Snapshot S C) (n : Nat) : Orderly d limit s n [] s n
  | cons {s s' s'' : Snapshot S C} {n n' n'' : Nat} {l rest : List (Occurrence S C E O)}
      {inputs : List (Option E)} (hfirst : Passage d limit s n l inputs s' n')
      (hrest : Orderly d limit s' n' rest s'' n'') : Orderly d limit s n (l ++ rest) s'' n''

namespace Orderly

variable {d : Definition S C E K O} {limit n n' n'' : Nat} {s s' s'' : Snapshot S C}
  {l more : List (Occurrence S C E O)} {inputs : List (Option E)}

lemma single (h : Passage d limit s n l inputs s' n') : Orderly d limit s n l s' n' := by
  have := cons h (nil s' n')
  rwa [List.append_nil] at this

lemma trans (h : Orderly d limit s n l s' n') (h' : Orderly d limit s' n' more s'' n'') :
    Orderly d limit s n (l ++ more) s'' n'' := by
  induction h with
  | nil s n => exact h'
  | cons hfirst hrest ih =>
    rw [List.append_assoc]
    exact .cons hfirst (ih h')

lemma asides (hl : ∀ o ∈ l, o.isAside = true) : Orderly d limit s n l s n := by
  induction l with
  | nil => exact .nil s n
  | cons o l ih =>
    have hrest := ih fun o' ho' => hl o' (List.mem_cons_of_mem _ ho')
    exact .cons (.aside (hl o List.mem_cons_self)) hrest

theorem reached (h : Orderly d limit s n l s' n') : s' = d.reached limit s (inputsOf l) := by
  induction h with
  | nil s n => rfl
  | cons hfirst hrest ih =>
    rw [hfirst.inputsOf_append, Definition.reached_append, ← hfirst.reached]
    exact ih

/-- The snapshots that are published are a matter of the definition and the inputs alone. -/
theorem emitted (h : Orderly d limit s n l s' n') :
    l.filterMap emitted? = d.published limit s (inputsOf l) := by
  induction h with
  | nil s n => rfl
  | cons hfirst hrest ih =>
    rw [hfirst.inputsOf_append, Definition.published_append, ← hfirst.reached,
      List.filterMap_append, hfirst.emitted, ih]

/-- So are the attempts to start effects. -/
theorem attempts (h : Orderly d limit s n l s' n') :
    l.filterMap attempt? = numbered n ((d.entered limit s (inputsOf l)).filter d.invokes) ∧
      n' = n + ((d.entered limit s (inputsOf l)).filter d.invokes).length := by
  induction h with
  | nil s n => exact ⟨rfl, rfl⟩
  | cons hfirst hrest ih =>
    -- the attempts in the rest are numbered onward from the end of the first passage
    obtain ⟨hattempts, hcount⟩ := hfirst.attempts
    rw [hfirst.inputsOf_append, Definition.entered_append, ← hfirst.reached,
      List.filterMap_append, hattempts, ih.1, List.filter_append, numbered_append,
      List.length_append, ← hcount]
    refine ⟨rfl, ?_⟩
    rw [ih.2, hcount, Nat.add_assoc]

end Orderly

/-! ## Courses are orderly -/

namespace Effort

variable {d : Definition S C E K O} {n n' : Nat} {entered : List (Snapshot S C)}
  {work work' shown sent l : List (Occurrence S C E O)} {s : Snapshot S C}

omit [DecidableEq K] [Kinded E K] in
/-- What others send during the work belongs to the work. -/
lemma woven (h : Effort d n entered work n') (hwoven : Interleaved work sent work')
    (hsent : ∀ o ∈ sent, o.isReport = true) : Effort d n entered work' n' where
  isWork := hwoven.forall_mem h.isWork fun o ho => isWork_of_isReport (hsent o ho)
  attempts := by
    rw [← h.attempts]
    exact hwoven.filterMap_eq fun o ho => attempt?_of_isLife (isLife_of_isReport (hsent o ho))
  count := h.count

omit [DecidableEq K] [Kinded E K] in
/-- What others send after the publication stands beside the machine. -/
lemma published (h : Effort d n entered work n') (hshown : ∀ o ∈ shown, o.isAside = true)
    (hwoven : Interleaved (work ++ .emitted s :: shown) sent l)
    (hsent : ∀ o ∈ sent, o.isReport = true) :
    ∃ work' shown', l = work' ++ .emitted s :: shown' ∧ Effort d n entered work' n' ∧
      ∀ o ∈ shown', o.isAside = true := by
  obtain ⟨work', shown', during, later, rfl, rfl, hwork, hrest⟩ := hwoven.split
  rw [List.forall_mem_append] at hsent
  refine ⟨work', shown', rfl, h.woven hwork hsent.1, hrest.forall_mem hshown fun o ho => ?_⟩
  exact isAside_of_isReport (hsent.2 o ho)

end Effort

namespace Interpreter

variable [Label S] {it it' it'' : Interpreter S C E K O} {told : List (Occurrence S C E O)}

/-- `it'` has come from `it`, and the journal tells of it in order. -/
structure Follows (it : Interpreter S C E K O) (told : List (Occurrence S C E O))
    (it' : Interpreter S C E K O) : Prop where
  definition : it'.definition = it.definition
  options : it'.options = it.options
  journal : it'.journal = it.journal ++ told
  orderly : Orderly it.definition it.options.maxEventlessSteps it.snapshot it.generation told
    it'.snapshot it'.generation
  proper : it'.Proper

omit [Label S] in
lemma Beside.follows (hproper : it.Proper) (h : it.Beside told it') : it.Follows told it' where
  definition := h.definition
  options := h.options
  journal := h.journal
  orderly := by
    rw [h.snapshot, h.generation]
    exact .asides h.isAside
  proper := by
    rw [Proper, state, h.snapshot, h.definition]
    exact hproper

omit [Label S] in
/-- The stop tells in order that the effect was cleaned up. -/
lemma stop_follows (hproper : it.Proper) : ∃ told, it.Follows told it.stop.1 := by
  by_cases hstopped : it.status = .stopped
  · rw [stop_of_stopped hstopped]
    exact ⟨[], (Beside.refl it).follows hproper⟩
  obtain ⟨told, hhalt⟩ := stop_spec hstopped
  obtain ⟨rest, hrest, htold⟩ := hhalt.shape
  refine ⟨told, hhalt.definition, hhalt.options, hhalt.journal, ?_, ?_⟩
  · have hcleaned : Effort it.definition it.generation [] it.farewell it.generation := by
      unfold farewell
      cases it.effect with
      | none => exact .reports (by simp)
      | some active => exact .single rfl rfl
    have htrail : Effort it.definition it.generation [] rest it.generation := by
      refine .idle fun o ho => ?_
      rcases hrest o ho with hreport | ⟨error, rfl⟩
      · exact ⟨isWork_of_isReport hreport, attempt?_of_isLife (isLife_of_isReport hreport)⟩
      · exact ⟨rfl, rfl⟩
    rw [htold, hhalt.snapshot, hhalt.generation]
    exact .single (.closing (hcleaned.trans htrail))
  · rw [Proper, state, hhalt.snapshot, hhalt.definition]
    exact hproper

/-- The start tells in order what it entered. -/
lemma booted_follows (hproper : it.Proper) (hamid : it.Meanwhile it.booted it') :
    ∃ told, it.Follows told it' := by
  obtain ⟨work, shown, hboot⟩ := booting_spec hproper
  obtain ⟨-, -, -, hemit, -⟩ := emit_spec it.booting.1
  obtain ⟨first, rest, sent, rest', htold, hwoven, hsent, hadds⟩ := hamid.adds hboot.adds
  obtain ⟨rfl, rfl⟩ := List.cons.inj htold
  obtain ⟨work', shown', rfl, heffort, hshown⟩ := hboot.effort.published hboot.isAside hwoven hsent
  obtain ⟨queue, recorded, rfl⟩ := hamid.exists_amid
  refine ⟨_, hemit.definition.trans hboot.definition, hemit.options.trans hboot.options,
    hadds.journal, ?_, ?_⟩
  -- the publication is the end of the opening; what observers do comes after it
  · have hopening : Orderly it.definition it.options.maxEventlessSteps it.snapshot it.generation
        (.started it.snapshot.state :: (work' ++ [.emitted (endOf it.snapshot (it.answer none))]))
        (endOf it.snapshot (it.answer none)) it.booting.1.generation :=
      .single (.opening heffort)
    have hall := hopening.trans (.asides hshown)
    rw [show (it.booted.amid queue recorded).snapshot = it.booting.1.snapshot from hemit.snapshot,
      show (it.booted.amid queue recorded).generation = it.booting.1.generation
        from hemit.generation, hboot.snapshot]
    simpa [state, answer] using hall
  · rw [Proper, state, show (it.booted.amid queue recorded).snapshot = it.booting.1.snapshot
        from hemit.snapshot,
      show (it.booted.amid queue recorded).definition = it.booting.1.definition
        from hemit.definition]
    exact hboot.proper

/-- The resolution of an event tells its verdict. -/
lemma step_follows (hproper : it.Proper) {envelope : Envelope E} {inbox : Inbox E}
    (hamid : (it.receiving envelope inbox).Meanwhile (it.step envelope inbox).1 it') :
    ∃ told, it.Follows told it' := by
  have hready : (it.receiving envelope inbox).Proper := hproper
  obtain ⟨told, hresolving, hadds⟩ := resolve_spec hready envelope
  obtain ⟨first, rest, sent, rest', htold, hwoven, hsent, hadds'⟩ := hamid.adds hadds
  have hjournal := journal_of_receiving hadds'
  obtain ⟨queue, recorded, rfl⟩ := hamid.exists_amid
  refine ⟨.taken envelope :: first :: rest', ?_⟩
  change it.Follows _ (((it.receiving envelope inbox).resolve envelope).1.amid queue recorded)
  change (((it.receiving envelope inbox).resolve envelope).1.amid queue recorded).journal = _
    at hjournal
  generalize (it.receiving envelope inbox).resolve envelope = r at hresolving hjournal ⊢
  cases hresolving with
  | stale hstale =>
    obtain ⟨rfl, rfl⟩ := List.cons.inj htold
    have haside := hwoven.forall_mem (by simp) fun o ho => isAside_of_isReport (hsent o ho)
    refine ⟨rfl, rfl, hjournal, ?_, hproper⟩
    exact (Orderly.single (.stale (origin_of_stale hstale))).trans (.asides haside)
  | unhandled hfresh hnone =>
    obtain ⟨rfl, rfl⟩ := List.cons.inj htold
    have haside := hwoven.forall_mem (by simp) fun o ho => isAside_of_isReport (hsent o ho)
    refine ⟨rfl, rfl, hjournal, ?_, hproper⟩
    exact (Orderly.single (.unhandled hnone)).trans (.asides haside)
  | @handled legs work shown it₁ hfresh hlegs hsome hstretch hproper' hshown =>
    have hwoven' := hwoven.keep first
    rw [← htold] at hwoven'
    obtain ⟨work', shown', hwork', heffort, hshown'⟩ :=
      hstretch.effort.published hshown hwoven' hsent
    obtain ⟨-, -, -, hemit, -⟩ := emit_spec it₁
    refine ⟨hemit.definition.trans hstretch.definition, hemit.options.trans hstretch.options,
      hjournal, ?_, ?_⟩
    · have hall := (Orderly.single (.handled hlegs hsome heffort)).trans (.asides hshown')
      rw [hwork', show (it₁.emit.amid queue recorded).snapshot = it₁.snapshot from hemit.snapshot,
        show (it₁.emit.amid queue recorded).generation = it₁.generation from hemit.generation,
        hstretch.snapshot]
      rw [List.cons_append, List.append_assoc] at hall
      exact hall
    · rw [Proper, state, show (it₁.emit.amid queue recorded).snapshot = it₁.snapshot
          from hemit.snapshot,
        show (it₁.emit.amid queue recorded).definition = it₁.definition from hemit.definition]
      exact hproper'

/-- Every move is told in order. -/
theorem Move.follows (hproper : it.Proper) (h : it.Move it') : ∃ told, it.Follows told it' := by
  rcases h.beside_or with ⟨told, hbeside⟩ | ⟨-, hamid⟩ | ⟨-, envelope, inbox, -, hamid⟩ | rfl
  · exact ⟨told, hbeside.follows hproper⟩
  · exact booted_follows hproper hamid
  · exact step_follows hproper hamid
  · exact stop_follows hproper

omit [Label S] in
lemma Follows.trans {more : List (Occurrence S C E O)} (h : it.Follows told it')
    (h' : it'.Follows more it'') : it.Follows (told ++ more) it'' where
  definition := h'.definition.trans h.definition
  options := h'.options.trans h.options
  journal := by rw [h'.journal, h.journal, List.append_assoc]
  orderly := by
    have hmore := h'.orderly
    rw [h.definition, h.options] at hmore
    exact h.orderly.trans hmore
  proper := h'.proper

/-- Every course is told in order. -/
theorem Course.follows (hproper : it.Proper) (h : it.Course it') :
    ∃ told, it.Follows told it' := by
  induction h with
  | refl => exact ⟨[], (Beside.refl it).follows hproper⟩
  | tail hcourse hmove ih =>
    obtain ⟨told, htold⟩ := ih
    obtain ⟨more, hmore⟩ := hmove.follows htold.proper
    exact ⟨told ++ more, htold.trans hmore⟩

/-! ## From the beginning -/

variable {d : Definition S C E K O} {options : Options} {it₀ : Interpreter S C E K O}

omit [DecidableEq K] [Kinded E K] [Label S] in
lemma Blank.proper (h : Blank d options it) : it.Proper := by
  rw [Proper, h.definition]
  exact h.done

/-- What every interpreter has that is on its way. -/
structure Sound (d : Definition S C E K O) (options : Options) (it : Interpreter S C E K O) :
    Prop where
  definition : it.definition = d
  options : it.options = options
  proper : it.Proper

/-- The journal of a course that begins with a new interpreter is orderly as a whole. -/
theorem Course.sound (hfresh : Fresh d options it₀) (hcourse : it₀.Course it) :
    Sound d options it ∧ Orderly d options.maxEventlessSteps it₀.snapshot 0 it.journal it.snapshot
      it.generation := by
  have hblank := hfresh.blank
  obtain ⟨told, hfollows⟩ := Course.follows hblank.proper hcourse
  have horderly := hfollows.orderly
  have hjournal : it.journal = told := by
    rw [hfollows.journal, journal, hblank.recorded]
    rfl
  rw [hblank.definition, hblank.options, hblank.generation, ← hjournal] at horderly
  exact ⟨⟨hfollows.definition.trans hblank.definition, hfollows.options.trans hblank.options,
    hfollows.proper⟩, horderly⟩

end Interpreter

end Macrostep
