/-
# Machines stay in declared states

A machine that is built without faults begins in a declared state, and its transitions lead to
declared states (`Draft.closed_of_build`).  What every transition keeps holds wherever the machine
gets to (`Definition.reached_induction`), so an interpreter is in a declared state at any time, and
the checkpoint that is taken of it is accepted by its own machine: resuming gives back its position
and its history (`Interpreter.Course.resume_checkpoint`).
-/
import Macrostep.Proofs.JournalOrder
import Macrostep.Proofs.Placements

namespace Macrostep

open Leg (endOf)

variable {S C E K O : Type} [DecidableEq S]

namespace Definition

section

variable [DecidableEq K] [Kinded E K]

/-- A machine that begins in a declared state and whose transitions lead to declared states. -/
structure Closed (d : Definition S C E K O) : Prop where
  initial : d.contains d.initial = true
  select {state target : S} {context : C} {event : E} {t : Transition S C E O}
    (hselect : d.select state context event = some t) (htarget : t.target = some target) :
    d.contains target = true
  always {state target : S} {context : C} {t : Transition S C E O}
    (hselect : d.selectEventless state context = some t) (htarget : t.target = some target) :
    d.contains target = true

variable {d : Definition S C E K O} {P : Snapshot S C → Prop}

omit [DecidableEq K] [Kinded E K] in
/-- What eventless transitions keep holds at the end of a chain. -/
lemma chain_induction
    (halways : ∀ s t, P s → d.selectEventless s.state s.context = some t → P (d.apply t none s))
    (limit : Nat) {s : Snapshot S C} (hs : P s) : P (endOf s (d.chain limit s)) := by
  induction limit generalizing s with
  | zero => exact hs
  | succ limit ih =>
    rw [chain]
    cases hselect : d.selectEventless s.state s.context with
    | none => exact hs
    | some t => exact ih (halways s t hs hselect)

/-- What every transition keeps holds wherever the machine gets to. -/
theorem reached_induction
    (hselect : ∀ s event t, P s → d.select s.state s.context event = some t →
      P (d.apply t (some event) s))
    (halways : ∀ s t, P s → d.selectEventless s.state s.context = some t → P (d.apply t none s))
    (limit : Nat) (inputs : List (Option E)) {s : Snapshot S C} (hs : P s) :
    P (d.reached limit s inputs) := by
  induction inputs generalizing s with
  | nil => exact hs
  | cons input inputs ih =>
    refine ih ?_
    cases input with
    | none => exact chain_induction halways limit hs
    | some event =>
      rw [respond]
      cases hsome : d.select s.state s.context event with
      | none => exact hs
      | some t => exact chain_induction halways limit (hselect s event t hs hsome)

omit [DecidableEq K] [Kinded E K] in
/-- A transition leads from declared states to declared states. -/
lemma contains_apply {t : Transition S C E O} {s : Snapshot S C} (event : Option E)
    (htarget : ∀ target, t.target = some target → d.contains target = true)
    (hs : d.contains s.state = true) : d.contains (d.apply t event s).state = true := by
  cases hcase : t.target with
  | none => rwa [d.apply_of_no_target hcase]
  | some target =>
    rw [d.apply_of_target hcase]
    exact htarget target hcase

/-- A closed machine stays in its declared states. -/
lemma Closed.reached (hclosed : d.Closed) (limit : Nat) (inputs : List (Option E))
    {s : Snapshot S C} (hs : d.contains s.state = true) :
    d.contains (d.reached limit s inputs).state = true :=
  reached_induction (P := fun s => d.contains s.state = true)
    (fun _ event _ hs hselect => contains_apply (some event) (fun _ => hclosed.select hselect) hs)
    (fun _ _ hs hselect => contains_apply none (fun _ => hclosed.always hselect) hs)
    limit inputs hs

end

end Definition

/-! ## Machines that were built -/

namespace Draft

section

variable {draft : Draft S C E K O}

/-- Without faults a transition leads to a declared state. -/
lemma target_mem_of_no_fault [Label S] {t : TransitionDraft S C E O} {scope : Scope}
    {declared : List S} {registry : Registry C E O} (h : t.faults scope declared registry = [])
    {target : S} (htarget : t.target = some target) : target ∈ declared := by
  have hfault : t.targetFaults scope declared = [] := by
    simp only [TransitionDraft.faults, List.append_eq_nil_iff] at h
    exact h.1.1
  rw [TransitionDraft.targetFaults, htarget] at hfault
  simpa using hfault

variable [DecidableEq K]

omit [DecidableEq S] in
/-- A candidate comes from the declaration of a transition. -/
lemma mem_candidates {entries : List (K × TransitionDraft S C E O)} {registry : Registry C E O}
    {kind : K} {t : Transition S C E O}
    (h : t ∈ (EventTable.ofList
      (entries.map fun (k, entry) => (k, entry.resolve registry))).candidates kind) :
    ∃ entry ∈ entries, t = entry.2.resolve registry := by
  rw [EventTable.candidates_ofList] at h
  simp only [List.mem_map, List.mem_filter] at h
  obtain ⟨_, ⟨⟨entry, hentry, rfl⟩, -⟩, rfl⟩ := h
  exact ⟨entry, hentry, rfl⟩

variable [Label S] [Kinded E K]

/-- A machine that was built without faults is closed. -/
theorem closed_of_build {d : Definition S C E K O} (h : draft.build = .ok d) : d.Closed := by
  obtain ⟨hempty, hnodup, rfl⟩ := faultless_of_build h
  have hcontains {state : S} (hstate : state ∈ draft.declared) :
      draft.compile.contains state = true :=
    (contains_compile hnodup).mpr hstate
  simp only [faults, List.append_eq_nil_iff, List.flatMap_eq_nil_iff, StateDraft.faults] at hempty
  obtain ⟨⟨⟨-, hinitial⟩, hstates⟩, hshared⟩ := hempty
  refine ⟨?_, ?_, ?_⟩
  · refine hcontains ?_
    rw [compile_eq _ hnodup]
    change draft.initial ∈ draft.declared
    simpa using hinitial
  · intro state target context event t hselect htarget
    refine hcontains ?_
    obtain ⟨node, hnode, hselect⟩ := Option.bind_eq_some_iff.mp hselect
    obtain ⟨s, hs, rfl⟩ := node?_compile hnodup hnode
    split at hselect
    · cases hselect
    rw [compile_eq _ hnodup] at hselect
    rcases List.mem_append.mp (List.mem_of_find?_eq_some hselect) with hlocal | hglobal
    · obtain ⟨entry, hentry, rfl⟩ := mem_candidates hlocal
      exact target_mem_of_no_fault ((hstates s hs).1.2 entry hentry) htarget
    · obtain ⟨entry, hentry, rfl⟩ := mem_candidates hglobal
      exact target_mem_of_no_fault (hshared entry hentry) htarget
  · intro state target context t hselect htarget
    refine hcontains ?_
    obtain ⟨node, hnode, hselect⟩ := Option.bind_eq_some_iff.mp hselect
    obtain ⟨s, hs, rfl⟩ := node?_compile hnodup hnode
    obtain ⟨entry, hentry, rfl⟩ := List.mem_map.mp (List.mem_of_find?_eq_some hselect)
    exact target_mem_of_no_fault ((hstates s hs).2 entry hentry) htarget

end

end Draft

/-! ## Running machines -/

namespace Interpreter

variable [Label S] {d : Definition S C E K O} {options options' : Options}

/-- A checkpoint that a machine accepts: of the supported version, of its name, in one of its
states. -/
lemma validate_of_declared {cp : Checkpoint S C} (hversion : cp.version = 1)
    (hmachine : cp.machine = d.id) (hstate : d.contains cp.state = true) :
    cp.validate d = .ok () := by
  have hversion : cp.checkVersion = .ok () := if_pos hversion
  have hmachine : ¬cp.machine ≠ d.id := not_not_intro hmachine
  have hstate : ¬(!d.contains cp.state) = true := by simp [hstate]
  rw [Checkpoint.validate, hversion]
  exact (if_neg hmachine).trans (if_neg hstate)

/-- A checkpoint whose state is not declared is not accepted. -/
lemma declared_of_validate {cp : Checkpoint S C} (h : cp.validate d = .ok ()) :
    d.contains cp.state = true := by
  rw [Checkpoint.validate] at h
  cases hversion : cp.checkVersion with
  | error error =>
    rw [hversion] at h
    cases h
  | ok u =>
    rw [hversion] at h
    change (if _ then _ else if _ then _ else _) = _ at h
    split at h
    · cases h
    split at h
    · cases h
    · rename_i hstate
      simpa using hstate

/-- An interpreter begins in a declared state. -/
lemma Fresh.declared [DecidableEq K] [Kinded E K] {it₀ : Interpreter S C E K O}
    (hclosed : d.Closed) (h : Fresh d options it₀) : d.contains it₀.snapshot.state = true := by
  cases h with
  | new now timers => exact hclosed.initial
  | @resumed cp it now timers hresume =>
    obtain ⟨hvalid, rfl⟩ := validate_of_resume hresume
    exact declared_of_validate hvalid

variable [DecidableEq K] [Kinded E K] {it₀ it : Interpreter S C E K O}

/-- An interpreter of a closed machine is in a declared state at any time. -/
theorem Course.declared (hclosed : d.Closed) (hfresh : Fresh d options it₀)
    (hcourse : it₀.Course it) : d.contains it.snapshot.state = true := by
  rw [(Course.sound hfresh hcourse).2.reached]
  exact hclosed.reached _ _ (hfresh.declared hclosed)

/-- The checkpoint of an interpreter is accepted by its machine, and the interpreter that resumes it
stands where the first one stands, with the same history. -/
theorem Course.resume_checkpoint (hclosed : d.Closed) (hfresh : Fresh d options it₀)
    (hcourse : it₀.Course it) (id : String) (options' : Options) :
    resume d (it.checkpoint id) options' = .ok (placed d options' it.snapshot it.history) := by
  obtain ⟨hsound, -⟩ := Course.sound hfresh hcourse
  have hdone : it.snapshot.done = d.isFinal it.snapshot.state := by
    have hproper := hsound.proper
    rwa [Proper, state, hsound.definition] at hproper
  have hvalid : (it.checkpoint id).validate d = .ok () :=
    validate_of_declared rfl (by rw [checkpoint, hsound.definition])
      (hcourse.declared hclosed hfresh)
  rw [resume_of_validate hvalid, show (⟨(it.checkpoint id).state, (it.checkpoint id).context,
    d.isFinal (it.checkpoint id).state⟩ : Snapshot S C) = it.snapshot by rw [checkpoint, ← hdone]]
  rfl

end Interpreter

end Macrostep
