/-
# Itineraries

A hop is a transition with a target, apart from the time: the state that was left, the state that was
entered, and the name of the kind of the event.  What hops a machine takes on a list of inputs is a
matter of its definition (`Definition.itinerary`), and they lead from the state in which it begins to
the one that it reaches (`Definition.leads_itinerary`).

A running machine takes exactly these.  On every course the hops that the journal tells of are the
itinerary of its inputs, and the history is what the options retain of them, one after the other
(`Interpreter.Course.tours`).
-/
import Mathlib.Data.List.Chain
import Macrostep.Proofs.AfterStop
import Macrostep.Proofs.MirroredRuns

namespace Macrostep

open Occurrence

open Leg (endOf)

variable {S C E K O : Type}

/-! ## Hops -/

/-- A transition with a target, apart from the time: the state that was left, the state that was
entered, and the name of the kind of the event, if there was one. -/
abbrev Hop (S : Type) := S × S × Option String

/-- The hop that a journal tells of. -/
def Occurrence.hop? [Kinded E K] : Occurrence S C E O → Option (Hop S)
  | transitioned source target event => some (source, target, event.map kindNameOf)
  | _ => none

/-- The hop by which a transition leaves a state, if it has a target. -/
def Transition.hop? [Kinded E K] (t : Transition S C E O) (s : S) (event : Option E) :
    Option (Hop S) :=
  t.target.map fun target => (s, target, event.map kindNameOf)

/-- The hops of a list of steps from a state; the first step is due to the event, and the others are
eventless. -/
def Leg.hops [Kinded E K] (s : S) : Option E → List (Leg S C E O) → List (Hop S)
  | _, [] => []
  | event, leg :: legs => (leg.transition.hop? s event).toList ++ hops leg.arrival.state none legs

/-- A list of hops leads from one state to another: each begins where the one before it ends. -/
inductive Leads : S → List (Hop S) → S → Prop
  | nil (s : S) : Leads s [] s
  | cons {s next last : S} {event : Option String} {hops : List (Hop S)}
      (hrest : Leads next hops last) : Leads s ((s, next, event) :: hops) last

namespace Leads

variable {s m t : S} {hops more : List (Hop S)}

lemma append (h : Leads s hops m) (h' : Leads m more t) : Leads s (hops ++ more) t := by
  induction h with
  | nil s => exact h'
  | cons hrest ih => exact .cons (ih h')

/-- Each hop begins where the one before it ends, and the last one ends at the end. -/
lemma isChain (h : Leads s hops t) :
    hops.IsChain (fun hop next => next.1 = hop.2.1) ∧ (∀ hop ∈ hops.head?, hop.1 = s) ∧
      ∀ hop ∈ hops.getLast?, hop.2.1 = t := by
  induction h with
  | nil s => simp
  | @cons s next last event hops hrest ih =>
    obtain ⟨hchain, hfirst, hlast⟩ := ih
    refine ⟨?_, by simp, ?_⟩
    · exact List.isChain_cons.mpr ⟨hfirst, hchain⟩
    · cases hrest with
      | nil => simp
      | cons hrest => rwa [List.getLast?_cons_cons]

/-- What is left of a way leads to its end. -/
lemma of_suffix (h : Leads s hops t) (hsuffix : more <:+ hops) : ∃ m, Leads m more t := by
  induction h with
  | nil s =>
    obtain rfl := List.suffix_nil.mp hsuffix
    exact ⟨s, .nil s⟩
  | @cons s next last event hops hrest ih =>
    rcases List.suffix_cons_iff.mp hsuffix with rfl | hsuffix
    · exact ⟨s, .cons hrest⟩
    · exact ih hsuffix

end Leads

/-- The states on a way from a state, if there is a hop at all. -/
def pathFrom (s : S) : List (Hop S) → List S
  | [] => []
  | hop :: hops => s :: (hop :: hops).map fun hop => hop.2.1

/-- The path of a history whose entries lead somewhere is the way that they lead. -/
lemma History.path_of_leads {history : History S} {s t : S} (h : Leads s history.undated t) :
    history.path = pathFrom s history.undated := by
  simp only [History.path, History.undated] at h ⊢
  generalize history.toList = entries at h ⊢
  cases entries with
  | nil => rfl
  | cons entry entries =>
    have hsource : entry.source = s := h.isChain.2.1 entry.undated rfl
    simp [pathFrom, hsource, Entry.undated]

/-! ## The itinerary of a definition -/

namespace Definition

variable [DecidableEq S] [Kinded E K]

/-- A transition leads to its target, if it has one, and nowhere otherwise. -/
lemma leads_apply (d : Definition S C E K O) (t : Transition S C E O) (event : Option E)
    (s : Snapshot S C) : Leads s.state (t.hop? s.state event).toList (d.apply t event s).state := by
  cases htarget : t.target with
  | none =>
    rw [d.apply_of_no_target htarget, Transition.hop?, htarget]
    exact .nil _
  | some target =>
    rw [d.apply_of_target htarget, Transition.hop?, htarget]
    exact .cons (.nil _)

lemma leads_chain (d : Definition S C E K O) (limit : Nat) (s : Snapshot S C) :
    Leads s.state (Leg.hops s.state none (d.chain limit s)) (endOf s (d.chain limit s)).state := by
  induction limit generalizing s with
  | zero => exact .nil _
  | succ limit ih =>
    rw [chain]
    cases d.selectEventless s.state s.context with
    | none => exact .nil _
    | some t => exact (d.leads_apply t none s).append (ih _)

variable [DecidableEq K]

lemma leads_respond (d : Definition S C E K O) (limit : Nat) (s : Snapshot S C)
    (input : Option E) :
    Leads s.state (Leg.hops s.state input (d.respond limit s input))
      (endOf s (d.respond limit s input)).state := by
  cases input with
  | none => exact d.leads_chain limit s
  | some event =>
    rw [respond]
    cases d.select s.state s.context event with
    | none => exact .nil _
    | some t => exact (d.leads_apply t (some event) s).append (d.leads_chain limit _)

/-- The hops that a machine takes on a list of inputs. -/
def itinerary (d : Definition S C E K O) (limit : Nat) :
    Snapshot S C → List (Option E) → List (Hop S)
  | _, [] => []
  | s, input :: inputs =>
    let legs := d.respond limit s input
    Leg.hops s.state input legs ++ d.itinerary limit (endOf s legs) inputs

lemma itinerary_append (d : Definition S C E K O) (limit : Nat) (s : Snapshot S C)
    (inputs more : List (Option E)) :
    d.itinerary limit s (inputs ++ more) =
      d.itinerary limit s inputs ++ d.itinerary limit (d.reached limit s inputs) more := by
  induction inputs generalizing s with
  | nil => rfl
  | cons input inputs ih =>
    rw [List.cons_append, itinerary, itinerary, ih, reached]
    exact (List.append_assoc ..).symm

/-- The hops lead to the position that the inputs lead to. -/
theorem leads_itinerary (d : Definition S C E K O) (limit : Nat) (s : Snapshot S C)
    (inputs : List (Option E)) :
    Leads s.state (d.itinerary limit s inputs) (d.reached limit s inputs).state := by
  induction inputs generalizing s with
  | nil => exact .nil _
  | cons input inputs ih => exact (d.leads_respond limit s input).append (ih _)

end Definition

/-! ## What a history retains -/

/-- What is recorded after one more hop. -/
def Options.retain (options : Options) (past : List (Hop S)) (hop : Hop S) : List (Hop S) :=
  if options.recordHistory then
    (past ++ [hop]).drop (options.historyLimit.elim 0 (past.length + 1 - ·))
  else past

/-- An entry is added, and what is beyond the limit is dropped. -/
lemma History.undated_push_eq (history : History S) (entry : Entry S) (limit : Option Nat) :
    (history.push entry limit).undated =
      (history.undated ++ [entry.undated]).drop
        (limit.elim 0 (history.undated.length + 1 - ·)) := by
  cases limit with
  | none =>
    have hpush : (history.push entry none).toList = history.toList ++ [entry] :=
      toList_record history entry
    simp [undated, hpush]
  | some n =>
    have hlength : history.undated.length = history.length := by simp [undated, toList, length]
    rw [undated, toList_push_some, List.map_drop, hlength]
    simp [undated]

/-! ## The inputs of a journal -/

/-- What happens beside the machine is no input. -/
lemma inputsOf_of_isAside {l : List (Occurrence S C E O)} (h : ∀ o ∈ l, o.isAside = true) :
    inputsOf l = [] := by
  induction l with
  | nil => rfl
  | cons o l ih =>
    rw [List.forall_mem_cons] at h
    rw [inputsOf_cons_of_isAside h.1]
    exact ih h.2

lemma Orderly.inputsOf_append [DecidableEq S] [DecidableEq K] [Kinded E K]
    {d : Definition S C E K O} {limit n n' : Nat} {s s' : Snapshot S C}
    {l : List (Occurrence S C E O)} (h : Orderly d limit s n l s' n')
    (more : List (Occurrence S C E O)) : inputsOf (l ++ more) = inputsOf l ++ inputsOf more := by
  induction h with
  | nil s n => rfl
  | cons hfirst hrest ih =>
    rw [List.append_assoc, hfirst.inputsOf_append, hfirst.inputsOf_append, ih, List.append_assoc]

/-! ## The hops of a run -/

section

variable [Kinded E K]

lemma hop?_of_isLife {o : Occurrence S C E O} (h : o.isLife = false) : o.hop? = none := by
  cases o <;> first | rfl | cases h

lemma hop?_of_isAside {o : Occurrence S C E O} (h : o.isAside = true) : o.hop? = none :=
  hop?_of_isLife (isLife_of_isAside h)

lemma hops_of_reports {reports : List (Occurrence S C E O)} (h : ∀ o ∈ reports, o.isReport = true) :
    reports.filterMap hop? = [] :=
  filterMap_eq_nil_of_class (fun _ ho => hop?_of_isLife (isLife_of_isReport ho)) h

end

namespace Interpreter

variable {it it' it'' it₀ : Interpreter S C E K O} {told more : List (Occurrence S C E O)}
  {way onward : List (Hop S)}

section

variable [Kinded E K]

/-- The hops that the journal tells of. -/
def hops (it : Interpreter S C E K O) : List (Hop S) := it.journal.filterMap hop?

/-- `it'` has come from `it` by these hops, and its history retains what the options say. -/
structure Walks (it : Interpreter S C E K O) (way : List (Hop S)) (it' : Interpreter S C E K O) :
    Prop where
  options : it'.options = it.options
  hops : it'.hops = it.hops ++ way
  history : it'.history.undated = way.foldl it.options.retain it.history.undated

namespace Walks

lemma trans (h : it.Walks way it') (h' : it'.Walks onward it'') : it.Walks (way ++ onward) it'' where
  options := h'.options.trans h.options
  hops := by rw [h'.hops, h.hops, List.append_assoc]
  history := by rw [h'.history, h.options, h.history, List.foldl_append]

/-- What is told of is no hop, and the history is the same. -/
lemma still (hjournal : it'.journal = it.journal ++ told) (htold : told.filterMap hop? = [])
    (hoptions : it'.options = it.options) (hhistory : it'.history = it.history) :
    it.Walks [] it' where
  options := hoptions
  hops := by rw [Interpreter.hops, hjournal, List.filterMap_append, htold]; rfl
  history := by rw [hhistory]; rfl

/-- What others send is no hop. -/
lemma meanwhile (h : it.Walks way it') (hamid : it.Meanwhile it' it'') : it.Walks way it'' := by
  obtain ⟨first, rest, sent, rest', hjournal, hjournal', hwoven, hsent, -⟩ := hamid.told
  have hsame : it''.hops = it'.hops := by
    rw [Interpreter.hops, Interpreter.hops, hjournal, hjournal', List.filterMap_append,
      List.filterMap_append]
    refine congrArg _ ((Interleaved.keep first hwoven).filterMap_eq fun o ho => ?_)
    obtain ⟨origin, event, rfl⟩ := hsent o ho
    exact hop?_of_isLife (isLife_of_isReport (isReport_report origin _ _))
  obtain ⟨queue, recorded, hamid⟩ := hamid.exists_amid
  refine ⟨?_, hsame.trans h.hops, ?_⟩
  · rw [hamid]
    exact h.options
  · rw [hamid]
    exact h.history

end Walks

lemma Releasing.hops {failure : Option EffectError} (h : Releasing it told it' failure) :
    told.filterMap hop? = [] := by
  cases h with
  | idle hno => rfl
  | clean hactive hreports =>
    rw [List.filterMap_cons_none rfl]
    exact hops_of_reports hreports

lemma Leaving.hops (h : Leaving it told it') : told.filterMap hop? = [] := by
  cases h with
  | smoothly hrelease => exact hrelease.hops
  | failing hrelease =>
    rw [List.filterMap_append, hrelease.hops]
    rfl

variable [DecidableEq S]

lemma Launching.hops (h : Launching it told it') : told.filterMap hop? = [] := by
  cases h with
  | quiet hno => rfl
  | success heffect hresult hreports =>
    rw [List.filterMap_cons_none rfl, List.filterMap_append, hops_of_reports hreports]
    rfl
  | failure heffect hresult hreports =>
    rw [List.filterMap_cons_none rfl, List.filterMap_append, hops_of_reports hreports]
    rfl

namespace Walks

lemma launch (it : Interpreter S C E K O) : it.Walks [] it.launch := by
  obtain ⟨told, hlaunch, hadds⟩ := launch_spec it
  exact still hadds.journal hlaunch.hops hlaunch.stays.options hlaunch.stays.history

/-- Taking a transition is its hop, if it has a target. -/
theorem take (it : Interpreter S C E K O) (t : Transition S C E O) (event : Option E) :
    it.Walks (t.hop? it.state event).toList (it.take t event) := by
  obtain ⟨told, htaking, hadds⟩ := take_spec it t event
  generalize it.take t event = after at htaking hadds ⊢
  have hjournal := hadds.journal
  cases htaking with
  | inside htarget hreports =>
    rw [Transition.hop?, htarget]
    exact still hjournal (hops_of_reports hreports) rfl rfl
  | @across target inbox reports recorded left begun it₁ it₂ htarget hreports hleave hlaunch =>
    have hleft := hleave.stays
    have hbegun := hlaunch.stays
    rw [enter_eq] at hbegun
    have hoptions : it₁.options = it.options := hleft.options
    have hhistory : it₁.history = it.history := hleft.history
    have hstate : it₁.state = it.state := congrArg Snapshot.state hleft.snapshot
    have hhop : (transitioned it.state target event : Occurrence S C E O).hop? =
        some (it.state, target, event.map kindNameOf) := rfl
    rw [Transition.hop?, htarget]
    refine ⟨hbegun.options.trans hoptions, ?_, ?_⟩
    · rw [Interpreter.hops, hjournal, List.filterMap_append, List.filterMap_append,
        List.filterMap_append, hops_of_reports hreports, hleave.hops,
        List.filterMap_cons_some hhop, hlaunch.hops]
      rfl
    · rw [hbegun.history]
      dsimp only
      rw [hoptions, hhistory, hstate]
      simp only [Option.map_some, Option.toList_some, List.foldl_cons, List.foldl_nil,
        Options.retain]
      split
      · exact History.undated_push_eq ..
      · rfl

omit [DecidableEq S] in
/-- Publication is no hop. -/
lemma emit (it : Interpreter S C E K O) : it.Walks [] it.emit := by
  obtain ⟨shown, hshown, hadds, hshows, -⟩ := emit_spec it
  refine still hadds.journal ?_ hshows.options hshows.history
  rw [List.filterMap_cons_none rfl]
  exact filterMap_eq_nil_of_class (fun _ => hop?_of_isAside) hshown

variable [Label S] [DecidableEq K]

omit [DecidableEq K] in
/-- Taking eventless transitions is the hops of the chain. -/
theorem settleWithin (hproper : it.Proper) (steps : Nat) :
    it.Walks (Leg.hops it.state none (it.definition.chain steps it.snapshot))
      (it.settleWithin steps).1 := by
  induction steps generalizing it with
  | zero =>
    cases hsel : it.definition.selectEventless it.state it.context with
    | none =>
      rw [settleWithin_of_none hsel]
      exact still (List.append_nil _).symm rfl rfl rfl
    | some t =>
      rw [settleWithin_zero_of_some hsel]
      exact still (journal_log _ _) rfl rfl rfl
  | succ steps ih =>
    have hselect : it.definition.selectEventless it.snapshot.state it.snapshot.context =
      it.definition.selectEventless it.state it.context := rfl
    cases hsel : it.definition.selectEventless it.state it.context with
    | none =>
      rw [settleWithin_of_none hsel, Definition.chain]
      simp only [hselect, hsel]
      exact still (List.append_nil _).symm rfl rfl rfl
    | some t =>
      obtain ⟨work, htake⟩ := take_stretch hproper t none
      have hrest := ih (proper_take hproper t none)
      rw [state, htake.definition, htake.snapshot] at hrest
      rw [settleWithin_succ_of_some hsel, Definition.chain]
      simp only [hselect, hsel]
      exact (take it t none).trans hrest

/-- The start is the hops of the first chain. -/
lemma booting (hproper : it.Proper) :
    it.Walks (Leg.hops it.state none (it.answer none)) it.booting.1 := by
  let begun : Interpreter S C E K O := { it with status := .running }.log (.started it.state)
  obtain ⟨told, hlaunch, -⟩ := launch_spec begun
  have hstays := hlaunch.stays
  have hbegun : it.Walks [] begun := still (journal_log _ _) rfl rfl rfl
  have hlaunched : begun.launch.Proper := by
    rw [Proper, state, hstays.snapshot, hstays.definition]
    exact hproper
  have hsettled := settleWithin hlaunched begun.launch.options.maxEventlessSteps
  rw [hstays.options, state, hstays.snapshot, hstays.definition] at hsettled
  have hall := (hbegun.trans (launch begun)).trans hsettled
  rw [Interpreter.booting, settle, hstays.options]
  exact hall

/-- An event that is discarded leads nowhere. -/
lemma resolve_of_stale {envelope : Envelope E} {generation : Nat}
    (hstale : it.staleGeneration? envelope = some generation) :
    it.Walks [] (it.resolve envelope).1 := by
  simp only [Interpreter.resolve, hstale]
  exact still (journal_log _ _) rfl rfl rfl

/-- Any other event leads where the definition says. -/
theorem resolve_of_fresh (hproper : it.Proper) {envelope : Envelope E}
    (hfresh : it.staleGeneration? envelope = none) :
    it.Walks (Leg.hops it.state (some envelope.event) (it.answer (some envelope.event)))
      (it.resolve envelope).1 := by
  have hselect : it.definition.select it.snapshot.state it.snapshot.context envelope.event =
    it.definition.select it.state it.context envelope.event := rfl
  rw [answer, Definition.respond]
  cases hsel : it.definition.select it.state it.context envelope.event with
  | none =>
    simp only [Interpreter.resolve, hfresh, hselect, hsel]
    exact still (journal_log _ _) rfl rfl rfl
  | some t =>
    simp only [Interpreter.resolve, hfresh, hselect, hsel]
    obtain ⟨work, htake⟩ := take_stretch hproper t (some envelope.event)
    have htaken := proper_take hproper t (some envelope.event)
    have hsettled := settleWithin htaken it.options.maxEventlessSteps
    rw [state, htake.definition, htake.snapshot] at hsettled
    have hall := ((take it t (some envelope.event)).trans hsettled).trans (emit _)
    rw [settle, htake.options]
    rwa [List.append_nil] at hall

end Walks

/-! ## The hops of a course -/

variable [Label S] [DecidableEq K]

omit [Kinded E K] [DecidableEq S] [Label S] [DecidableEq K] in
lemma history_performAll (it : Interpreter S C E K O) (origin : Origin)
    (outputs : List (Output E O)) : (it.performAll origin outputs).history = it.history := by
  obtain ⟨inbox, recorded, hframe⟩ := performAll_frame it origin outputs
  rw [hframe]

omit [Kinded E K] [DecidableEq S] [Label S] [DecidableEq K] in
lemma history_subscribe (it : Interpreter S C E K O) (react : Observer S C E O) :
    (it.subscribe react).1.history = it.history := by
  unfold subscribe
  dsimp only
  split
  · rfl
  · rfl
  · exact history_performAll ..

omit [Kinded E K] [DecidableEq S] [Label S] [DecidableEq K] in
lemma history_advanceTo (it : Interpreter S C E K O) (time : Nat) (most : Option Nat) :
    (it.advanceTo time most).history = it.history := by
  rcases it.advanceTo_cases time most with hadvance | ⟨active, events, due, -, hadvance⟩
  · rw [hadvance]
  · rw [hadvance]
    exact history_performAll ..

/-- Only the start and events change the history. -/
lemma Move.history_or (h : it.Move it') :
    it'.history = it.history ∨ it.Meanwhile it.booted it' ∨
      ∃ envelope inbox, it.inbox.pop? = some (envelope, inbox) ∧
        (it.receiving envelope inbox).Meanwhile (it.step envelope inbox).1 it' := by
  cases h with
  | boot hstatus => exact .inr (.inl (booted_meanwhile it))
  | turn hstatus hpop => exact .inr (.inr ⟨_, _, hpop, step_meanwhile it _ _⟩)
  | bootAmid hstatus hamid => exact .inr (.inl hamid)
  | turnAmid hstatus hpop hamid => exact .inr (.inr ⟨_, _, hpop, hamid⟩)
  | subscribeAmid react hamid =>
    left
    obtain ⟨queue, recorded, rfl⟩ := hamid.exists_amid
    exact history_subscribe it react
  | post origin event => exact .inl (history_performAll it origin [.send event])
  | subscribe react => exact .inl (history_subscribe it react)
  | advance time most => exact .inl (history_advanceTo it time most)
  | halt =>
    left
    by_cases hstopped : it.status = .stopped
    · rw [stop_of_stopped hstopped]
    · rw [stop_eq hstopped]
      rfl
  | _ => exact .inl rfl

/-- `it'` has come from `it` in order, by the hops that the definition prescribes for the inputs, and
its history retains of them what the options say. -/
structure Tours (it : Interpreter S C E K O) (told : List (Occurrence S C E O))
    (it' : Interpreter S C E K O) : Prop extends it.Follows told it' where
  itinerary : told.filterMap hop? =
    it.definition.itinerary it.options.maxEventlessSteps it.snapshot (inputsOf told)
  history : it'.history.undated =
    (told.filterMap hop?).foldl it.options.retain it.history.undated

omit [Label S] in
lemma Follows.tours (h : it.Follows told it') (hwalks : it.Walks way it')
    (hway : way = it.definition.itinerary it.options.maxEventlessSteps it.snapshot (inputsOf told)) :
    it.Tours told it' := by
  have htold : told.filterMap hop? = way := by
    have hhops := hwalks.hops
    rw [hops, h.journal, List.filterMap_append] at hhops
    exact List.append_cancel_left hhops
  refine ⟨h, htold.trans hway, ?_⟩
  rw [htold]
  exact hwalks.history

omit [Label S] in
/-- What happens beside the machine is no hop. -/
lemma Beside.tours (hproper : it.Proper) (h : it.Beside told it')
    (hhistory : it'.history = it.history) : it.Tours told it' := by
  have hnone := filterMap_eq_nil_of_class (fun _ => hop?_of_isAside) h.isAside
  refine (h.follows hproper).tours (.still h.journal hnone h.options hhistory) ?_
  rw [inputsOf_of_isAside h.isAside]
  rfl

omit [Label S] in
/-- The stop is no hop. -/
lemma stop_tours (hproper : it.Proper) : ∃ told, it.Tours told it.stop.1 := by
  obtain ⟨told, hfollows⟩ := stop_follows hproper
  by_cases hstopped : it.status = .stopped
  · rw [stop_of_stopped hstopped]
    exact ⟨[], (Beside.refl it).tours hproper rfl⟩
  obtain ⟨told', hhalt⟩ := stop_spec hstopped
  obtain ⟨rest, hrest, hshape⟩ := hhalt.shape
  obtain rfl : told = told' :=
    List.append_cancel_left (hfollows.journal.symm.trans hhalt.journal)
  -- the cleanup is work without a hop
  have hwork : ∀ o ∈ it.farewell ++ rest, o.isWork = true ∧ o.hop? = none := by
    rw [List.forall_mem_append]
    refine ⟨fun o ho => ?_, fun o ho => ?_⟩
    · obtain ⟨active, -, rfl⟩ := List.mem_map.mp ho
      exact ⟨rfl, rfl⟩
    · rcases hrest o ho with hreport | ⟨error, rfl⟩
      · exact ⟨isWork_of_isReport hreport, hop?_of_isLife (isLife_of_isReport hreport)⟩
      · exact ⟨rfl, rfl⟩
  have hnone : told.filterMap hop? = [] := by
    rw [hshape, List.filterMap_append, List.filterMap_eq_nil_iff.mpr fun o ho => (hwork o ho).2]
    rfl
  have hinputs : inputsOf told = [] := by
    rw [hshape]
    exact inputsOf_work_append (fun o ho => (hwork o ho).1) _
  refine ⟨told, hfollows.tours (.still hhalt.journal hnone hhalt.options ?_) ?_⟩
  · rw [stop_eq hstopped]
    rfl
  · rw [hinputs]
    rfl

/-- The start takes the hops of the first chain. -/
lemma booted_tours (hproper : it.Proper) (hamid : it.Meanwhile it.booted it') :
    ∃ told, it.Tours told it' := by
  obtain ⟨told, hfollows⟩ := booted_follows hproper hamid
  obtain ⟨work, shown, hboot⟩ := booting_spec hproper
  obtain ⟨first, rest, sent, rest', hshape, hwoven, hsent, hadds⟩ := hamid.adds hboot.adds
  obtain ⟨rfl, rfl⟩ := List.cons.inj hshape
  obtain ⟨work', shown', rfl, heffort, hshown⟩ := hboot.effort.published hboot.isAside hwoven hsent
  obtain rfl := List.append_cancel_left (hfollows.journal.symm.trans hadds.journal)
  have hwalks := ((Walks.booting hproper).trans (.emit _)).meanwhile hamid
  refine ⟨_, hfollows.tours hwalks ?_⟩
  have hlast := inputsOf_of_isAside hshown
  have hinputs : inputsOf (work' ++ .emitted it.booting.1.snapshot :: shown') = [] := by
    rw [inputsOf_work_append heffort.isWork]
    exact hlast
  rw [inputsOf, hinputs]
  rfl

/-- An event that was taken is an input unless it is discarded. -/
lemma Resolving.inputsOf {envelope : Envelope E} {first : Occurrence S C E O}
    {rest rest' sent : List (Occurrence S C E O)}
    {r : Interpreter S C E K O × Except InterpreterError Unit}
    (h : it.Resolving envelope (first :: rest) r) (hwoven : Interleaved rest sent rest')
    (hsent : ∀ o ∈ sent, o.isReport = true) :
    Macrostep.inputsOf (.taken envelope :: first :: rest') =
      (it.staleGeneration? envelope).elim [some envelope.event] fun _ => [] := by
  generalize htold : first :: rest = told at h
  cases h with
  | stale hstale =>
    obtain ⟨rfl, rfl⟩ := List.cons.inj htold
    have haside := hwoven.forall_mem (by simp) fun o ho => isAside_of_isReport (hsent o ho)
    have hrest := inputsOf_of_isAside haside
    rw [hstale]
    exact hrest
  | unhandled hfresh hnone =>
    obtain ⟨rfl, rfl⟩ := List.cons.inj htold
    have haside := hwoven.forall_mem (by simp) fun o ho => isAside_of_isReport (hsent o ho)
    have hrest := inputsOf_of_isAside haside
    rw [hfresh]
    exact congrArg (some envelope.event :: ·) hrest
  | handled hfresh hlegs hsome hstretch hproper' hshown =>
    have hwoven' := hwoven.keep first
    rw [htold] at hwoven'
    obtain ⟨work', shown', hshape, heffort, hshown'⟩ :=
      hstretch.effort.published hshown hwoven' hsent
    rw [hshape, inputsOf_taken_work heffort.isWork, inputsOf_of_isAside hshown', hfresh]
    rfl

/-- An event takes the hops of the answer to it. -/
lemma step_tours (hproper : it.Proper) {envelope : Envelope E} {inbox : Inbox E}
    (hamid : (it.receiving envelope inbox).Meanwhile (it.step envelope inbox).1 it') :
    ∃ told, it.Tours told it' := by
  have hready : (it.receiving envelope inbox).Proper := hproper
  have hreceiving : it.Walks [] (it.receiving envelope inbox) :=
    .still (journal_log _ _) rfl rfl rfl
  obtain ⟨told, hfollows⟩ := step_follows hproper hamid
  obtain ⟨told', hresolving, hadds⟩ := resolve_spec hready envelope
  obtain ⟨first, rest, sent, rest', rfl, hwoven, hsent, hadds'⟩ := hamid.adds hadds
  obtain rfl := List.append_cancel_left (hfollows.journal.symm.trans (journal_of_receiving hadds'))
  have hinputs := hresolving.inputsOf hwoven hsent
  cases hstale : (it.receiving envelope inbox).staleGeneration? envelope with
  | some generation =>
    have hwalks := hreceiving.trans ((Walks.resolve_of_stale hstale).meanwhile hamid)
    refine ⟨_, hfollows.tours hwalks ?_⟩
    rw [hinputs, hstale]
    rfl
  | none =>
    have hwalks := hreceiving.trans ((Walks.resolve_of_fresh hready hstale).meanwhile hamid)
    refine ⟨_, hfollows.tours hwalks ?_⟩
    rw [hinputs, hstale]
    exact (List.append_nil _).symm

/-- Every move takes the hops that the definition prescribes. -/
theorem Move.tours (hproper : it.Proper) (h : it.Move it') : ∃ told, it.Tours told it' := by
  rcases h.history_or with hhistory | hamid | ⟨envelope, inbox, -, hamid⟩
  · rcases h.beside_or with ⟨told, hbeside⟩ | ⟨-, hamid⟩ | ⟨-, envelope, inbox, -, hamid⟩ | rfl
    · exact ⟨told, hbeside.tours hproper hhistory⟩
    · exact booted_tours hproper hamid
    · exact step_tours hproper hamid
    · exact stop_tours hproper
  · exact booted_tours hproper hamid
  · exact step_tours hproper hamid

omit [Label S] in
lemma Tours.trans (h : it.Tours told it') (h' : it'.Tours more it'') :
    it.Tours (told ++ more) it'' where
  toFollows := h.toFollows.trans h'.toFollows
  itinerary := by
    rw [List.filterMap_append, h.itinerary, h'.itinerary, h.orderly.inputsOf_append,
      Definition.itinerary_append, ← h.orderly.reached, h.definition, h.options]
  history := by
    rw [List.filterMap_append, List.foldl_append, h'.history, h.options, h.history]

/-- Every course takes the hops that the definition prescribes for its inputs, and the history
retains of them what the options say. -/
theorem Course.tours (hproper : it.Proper) (h : it.Course it') : ∃ told, it.Tours told it' := by
  induction h with
  | refl => exact ⟨[], (Beside.refl it).tours hproper rfl⟩
  | tail hcourse hmove ih =>
    obtain ⟨told, htold⟩ := ih
    obtain ⟨more, hmore⟩ := hmove.tours htold.proper
    exact ⟨told ++ more, htold.trans hmore⟩

variable {d : Definition S C E K O} {options : Options}

/-- From the beginning on the hops are the itinerary of the inputs. -/
theorem Course.itinerary (hfresh : Fresh d options it₀) (hcourse : it₀.Course it) :
    it.hops = d.itinerary options.maxEventlessSteps it₀.snapshot (inputsOf it.journal) ∧
      it.history.undated = it.hops.foldl options.retain it₀.history.undated ∧
      Leads it₀.state it.hops it.state := by
  have hblank := hfresh.blank
  obtain ⟨told, htours⟩ := Course.tours hblank.proper hcourse
  have hjournal : it.journal = told := by
    rw [htours.journal, journal, hblank.recorded]
    rfl
  have hitinerary := htours.itinerary
  have hhistory := htours.history
  have hreached := htours.orderly.reached
  rw [hblank.definition, hblank.options, ← hjournal] at hitinerary hreached
  rw [hblank.options, ← hjournal] at hhistory
  refine ⟨hitinerary, hhistory, ?_⟩
  rw [hops, hitinerary, state, state, hreached]
  exact d.leads_itinerary ..

end

end Interpreter

end Macrostep
