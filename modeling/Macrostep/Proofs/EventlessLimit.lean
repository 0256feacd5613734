/-
# How many eventless transitions are allowed

Eventless transitions are taken in a loop that counts them and looks at the count only when another
one is enabled (`Interpreter.Looping`).  So a machine that comes to rest after exactly as many steps
as are allowed is not cut, and one that is cut has taken exactly that many, which stand.

The bound shows nowhere else: as long as no call tells of a cut, an interpreter to which more steps
are allowed returns the same and does the same.  All of this is `Interpreter.allowance_exact`.
-/
import Mathlib.Data.Nat.Find
import Mathlib.Order.Bounds.Basic
import Macrostep.Proofs.OptionChange

namespace Macrostep

open Occurrence
open Leg (endOf)

variable {S C E K O : Type} [DecidableEq S]

namespace Definition

variable (d : Definition S C E K O) {s : Snapshot S C} {t : Transition S C E O}

/-- The position after so many eventless steps, each by the first transition that is enabled.  A
machine that rests stays where it is. -/
def drift (n : Nat) (s : Snapshot S C) : Snapshot S C := endOf s (d.chain n s)

lemma drift_succ_of_some (h : d.selectEventless s.state s.context = some t) (n : Nat) :
    d.drift (n + 1) s = d.drift n (d.apply t none s) := by
  rw [drift, chain, h]
  rfl

/-- The machine comes to rest after `n` eventless steps and not before. -/
def RestsAfter (s : Snapshot S C) (n : Nat) : Prop := IsLeast {k | d.rests (d.drift k s) = true} n

variable {d}

lemma exists_of_not_rests (h : d.rests s = false) :
    ∃ t, d.selectEventless s.state s.context = some t := by
  rw [rests, Option.isNone_eq_false_iff] at h
  exact Option.isSome_iff_exists.mp h

/-- A machine that has not come to rest within `n` steps has not come to rest before. -/
lemma not_rests_drift {n k : Nat} (h : ∀ k, d.RestsAfter s k → n < k) (hk : k ≤ n) :
    d.rests (d.drift k s) = false := by
  by_contra hrests
  rw [Bool.not_eq_false] at hrests
  -- there is a first time at which it rests
  obtain ⟨least, hleast⟩ : ∃ least, d.RestsAfter s least := by
    have hsome : ∃ k, d.rests (d.drift k s) = true := ⟨k, hrests⟩
    exact ⟨Nat.find hsome, Nat.find_spec hsome, fun _ h => Nat.find_min' hsome h⟩
  have hle : least ≤ k := hleast.2 hrests
  have hlt := h least hleast
  omega

end Definition

namespace Interpreter

variable [Kinded E K] {it last : Interpreter S C E K O}

/-! ## Steps -/

/-- So many eventless transitions lead from one interpreter to the other, each the first that is
enabled. -/
inductive Steps : Interpreter S C E K O → Nat → Interpreter S C E K O → Prop
  | refl (it : Interpreter S C E K O) : Steps it 0 it
  | head {it last : Interpreter S C E K O} {t : Transition S C E O} {n : Nat}
      (hsel : it.definition.selectEventless it.state it.context = some t)
      (hrest : Steps (it.take t none) n last) : Steps it (n + 1) last

lemma take_kept (it : Interpreter S C E K O) (t : Transition S C E O) (event : Option E) :
    it.Kept (it.take t event) := by
  obtain ⟨work, htaking, -⟩ := take_spec it t event
  exact htaking.kept

lemma Steps.kept {n : Nat} (h : it.Steps n last) : it.Kept last := by
  induction h with
  | refl it => exact (Stretch.refl it).toKept
  | head hsel hrest ih => exact (take_kept ..).trans ih

lemma Steps.snapshot (hproper : it.Proper) {n : Nat} (h : it.Steps n last) :
    last.snapshot = it.definition.drift n it.snapshot := by
  induction h with
  | refl it => rfl
  | @head it last t n hsel hrest ih =>
    obtain ⟨work, htake⟩ := take_stretch hproper t none
    rw [ih (proper_take hproper t none), htake.definition, htake.snapshot,
      it.definition.drift_succ_of_some hsel]
    rfl

/-- As long as the machine does not rest there is a next step. -/
lemma exists_steps (hproper : it.Proper) {n : Nat}
    (h : ∀ k < n, it.definition.rests (it.definition.drift k it.snapshot) = false) :
    ∃ last, it.Steps n last := by
  induction n generalizing it with
  | zero => exact ⟨it, .refl it⟩
  | succ n ih =>
    obtain ⟨t, hsel⟩ : ∃ t, it.definition.selectEventless it.state it.context = some t :=
      Definition.exists_of_not_rests (h 0 (Nat.succ_pos n))
    obtain ⟨work, htake⟩ := take_stretch hproper t none
    obtain ⟨last, hlast⟩ := ih (proper_take hproper t none) fun k hk => by
      have hnext := h (k + 1) (Nat.succ_lt_succ hk)
      rw [it.definition.drift_succ_of_some hsel] at hnext
      rw [htake.definition, htake.snapshot]
      exact hnext
    exact ⟨last, .head hsel hlast⟩

variable [Label S]

/-- Steps that are allowed are taken. -/
lemma settleWithin_of_steps {n : Nat} (h : it.Steps n last) (more : Nat) :
    it.settleWithin (n + more) = last.settleWithin more := by
  induction h with
  | refl it => rw [Nat.zero_add]
  | head hsel hrest ih => rw [Nat.add_right_comm, settleWithin_succ_of_some hsel, ih]

/-- If the machine comes to rest and that many steps are allowed, they are taken. -/
lemma settle_of_restsAfter (hproper : it.Proper) {k : Nat}
    (hk : it.definition.RestsAfter it.snapshot k) (hle : k ≤ it.options.maxEventlessSteps) :
    ∃ last, it.Steps k last ∧ last.snapshot = it.definition.drift k it.snapshot ∧
      it.settle = (last, .ok ()) := by
  have hbefore : ∀ n < k, it.definition.rests (it.definition.drift n it.snapshot) = false := by
    intro n hn
    by_contra hrests
    have hleast : k ≤ n := hk.2 ((Bool.not_eq_false _).mp hrests)
    omega
  obtain ⟨last, hlast⟩ := exists_steps hproper hbefore
  have hsnapshot := hlast.snapshot hproper
  have hrest : last.definition.selectEventless last.state last.context = none := by
    have hrests : it.definition.rests (it.definition.drift k it.snapshot) = true := hk.1
    rw [← hsnapshot, ← hlast.kept.definition] at hrests
    exact Option.isNone_iff_eq_none.mp hrests
  refine ⟨last, hlast, hsnapshot, ?_⟩
  rw [settle, ← Nat.add_sub_cancel' hle, settleWithin_of_steps hlast, settleWithin_of_none hrest]

/-- If it comes to rest later, or never, as many steps as are allowed are taken. -/
lemma settle_of_late (hproper : it.Proper)
    (hlate : ∀ k, it.definition.RestsAfter it.snapshot k → it.options.maxEventlessSteps < k) :
    ∃ last, it.Steps it.options.maxEventlessSteps last ∧
      last.snapshot = it.definition.drift it.options.maxEventlessSteps it.snapshot ∧
      it.settle = (last.log (.unsettled last.state it.options.maxEventlessSteps),
        .error (.nonTerminatingChain (Label.name last.state) it.options.maxEventlessSteps)) := by
  have hbusy : ∀ n ≤ it.options.maxEventlessSteps,
      it.definition.rests (it.definition.drift n it.snapshot) = false :=
    fun n hn => Definition.not_rests_drift hlate hn
  obtain ⟨last, hlast⟩ := exists_steps hproper fun n hn => hbusy n (Nat.le_of_lt hn)
  have hsnapshot := hlast.snapshot hproper
  obtain ⟨t, hsel⟩ : ∃ t, last.definition.selectEventless last.state last.context = some t := by
    rw [hlast.kept.definition, state, context, hsnapshot]
    exact Definition.exists_of_not_rests (hbusy _ (Nat.le_refl _))
  have hsettle := settleWithin_of_steps hlast 0
  rw [settleWithin_zero_of_some hsel, hlast.kept.options] at hsettle
  exact ⟨last, hlast, hsnapshot, hsettle⟩

/-! ## The loop -/

/-- How the loop ends that takes eventless transitions, when it has taken `n` of them.  It looks at
the count only when another transition is enabled. -/
inductive Looping : Nat → Interpreter S C E K O →
    Interpreter S C E K O × Except InterpreterError Unit → Prop
  | rest {n : Nat} {it : Interpreter S C E K O}
      (hsel : it.definition.selectEventless it.state it.context = none) : Looping n it (it, .ok ())
  | cut {it : Interpreter S C E K O} {t : Transition S C E O}
      (hsel : it.definition.selectEventless it.state it.context = some t) :
      Looping it.options.maxEventlessSteps it
        (it.log (.unsettled it.state it.options.maxEventlessSteps),
          .error (.nonTerminatingChain (Label.name it.state) it.options.maxEventlessSteps))
  | step {n : Nat} {it : Interpreter S C E K O} {t : Transition S C E O}
      {r : Interpreter S C E K O × Except InterpreterError Unit}
      (hsel : it.definition.selectEventless it.state it.context = some t)
      (hn : n ≠ it.options.maxEventlessSteps) (hrest : Looping (n + 1) (it.take t none) r) :
      Looping n it r

/-- The loop ends, and in one way only: as counting down from the bound does. -/
lemma looping_iff {n : Nat} (h : n ≤ it.options.maxEventlessSteps)
    {r : Interpreter S C E K O × Except InterpreterError Unit} :
    Looping n it r ↔ r = it.settleWithin (it.options.maxEventlessSteps - n) := by
  constructor
  · intro hloop
    induction hloop with
    | rest hsel => rw [settleWithin_of_none hsel]
    | cut hsel => rw [Nat.sub_self, settleWithin_zero_of_some hsel]
    | @step n it t r hsel hn hrest ih =>
      have hoptions := (take_kept it t none).options
      rw [hoptions] at ih
      rw [ih (by omega), ← settleWithin_succ_of_some hsel]
      congr 1
      omega
  · rintro rfl
    generalize hleft : it.options.maxEventlessSteps - n = left
    induction left generalizing n it with
    | zero =>
      obtain rfl : n = it.options.maxEventlessSteps := by omega
      cases hsel : it.definition.selectEventless it.state it.context with
      | none =>
        rw [settleWithin_of_none hsel]
        exact .rest hsel
      | some t =>
        rw [settleWithin_zero_of_some hsel]
        exact .cut hsel
    | succ left ih =>
      cases hsel : it.definition.selectEventless it.state it.context with
      | none =>
        rw [settleWithin_of_none hsel]
        exact .rest hsel
      | some t =>
        have hoptions := (take_kept it t none).options
        rw [settleWithin_succ_of_some hsel]
        refine .step hsel (by omega) (ih ?_ ?_)
        · rw [hoptions]
          omega
        · rw [hoptions]
          omega

/-! ## More steps -/

omit [DecidableEq S] [Kinded E K] [Label S] in
/-- The interpreter with another number of eventless transitions allowed. -/
def granting (it : Interpreter S C E K O) (more : Nat) : Interpreter S C E K O :=
  { it with options := { it.options with maxEventlessSteps := more } }

omit [Kinded E K] [Label S] in
lemma recasts_granting (hproper : it.Proper) {more : Nat}
    (h : it.options.maxEventlessSteps ≤ more) :
    it.Recasts (fun options => { options with maxEventlessSteps := more }) id where
  proper := hproper
  defers := rfl
  written _ _ := rfl
  allows := h

variable [DecidableEq K]

/-- **Eventless transitions are bounded exactly, and the bound is not seen otherwise.**  The loop
that takes them ends, and in one way only.  If the machine comes to rest after some number of steps
and not before, and that many are allowed, exactly these are taken and all is well.  Otherwise, if it
comes to rest later or never, exactly as many as are allowed are taken; what they did stands, and the
failure tells how many there were and the name of the state that was reached.

If more are allowed, calls of which none tells of a cut return the same and leave behind the same
interpreter, but for what is allowed to it. -/
theorem allowance_exact (hproper : it.Proper) :
    let d := it.definition
    let most := it.options.maxEventlessSteps
    (∀ r, Looping 0 it r ↔ r = it.settle) ∧
    (∀ k, d.RestsAfter it.snapshot k → k ≤ most →
      ∃ last, it.Steps k last ∧ last.snapshot = d.drift k it.snapshot ∧
        it.settle = (last, .ok ())) ∧
    ((∀ k, d.RestsAfter it.snapshot k → most < k) →
      ∃ last, it.Steps most last ∧ last.snapshot = d.drift most it.snapshot ∧
        it.settle = (last.log (.unsettled last.state most),
          .error (.nonTerminatingChain (Label.name last.state) most))) ∧
    ∀ more, most ≤ more → ∀ calls : List (Call S C E O),
      (∀ before call rest, calls = before ++ call :: rest → ¬(before.foldl after it).Cuts call) →
      (it.granting more).outcomes calls = it.outcomes calls ∧
        calls.foldl after (it.granting more) = (calls.foldl after it).granting more ∧
        (calls.foldl after (it.granting more)).drop = (calls.foldl after it).drop.granting more := by
  intro d most
  refine ⟨fun r => looping_iff (Nat.zero_le _), fun k => settle_of_restsAfter hproper,
    settle_of_late hproper, ?_⟩
  intro more hmore calls hno
  obtain ⟨hcalls, houtcomes⟩ := (recasts_granting hproper hmore).foldl_after calls (.inr hno)
  have hdrop := (calls.foldl after it).drop_recast
    (fun options => { options with maxEventlessSteps := more }) id
  exact ⟨houtcomes, hcalls, (congrArg drop hcalls).trans hdrop⟩

end Interpreter

namespace Lamp

/-- The lamp while it warms up, with so many eventless transitions allowed. -/
def warming (most : Nat) : Interpreter State Nat Event Event Unit :=
  Interpreter.placed lamp { maxEventlessSteps := most } ⟨.warm, 1, false⟩ {}

lemma warming_restsAfter : lamp.RestsAfter (⟨.warm, 1, false⟩ : Snapshot State Nat) 1 := by
  refine ⟨rfl, fun k hk => ?_⟩
  rcases k with _ | k
  · cases hk
  · exact Nat.succ_pos k

end Lamp

open Lamp in
theorem Interpreter.allowance_exact_lamp :
    (∃ last, (warming 1).Steps 1 last ∧ last.snapshot = ⟨.on, 2, false⟩ ∧
      (warming 1).settle = (last, .ok ())) ∧
    (∃ last, (warming 0).Steps 0 last ∧ last.snapshot = ⟨.warm, 1, false⟩ ∧
      (warming 0).settle = (last.log (.unsettled .warm 0), .error (.nonTerminatingChain "Warm" 0))) ∧
    ((warming 1).granting 7).outcomes [.start 2, .send 1 .press] =
      (warming 1).outcomes [.start 2, .send 1 .press] := by
  have hproper (most : Nat) : (warming most).Proper := rfl
  obtain ⟨-, hrests, -, hgranting⟩ := Interpreter.allowance_exact (hproper 1)
  obtain ⟨-, -, hcut, -⟩ := Interpreter.allowance_exact (hproper 0)
  refine ⟨hrests 1 warming_restsAfter (Nat.le_refl 1), ?_, ?_⟩
  · obtain ⟨last, hsteps, hsnapshot, hsettle⟩ := hcut fun k hk => by
      rw [hk.unique warming_restsAfter]
      exact Nat.one_pos
    have hstate : last.state = .warm := congrArg Snapshot.state hsnapshot
    rw [hstate] at hsettle
    exact ⟨last, hsteps, hsnapshot, hsettle⟩
  · refine (hgranting 7 (by decide) _ fun before call rest hcalls => ?_).1
    have hstarted : ((warming 1).start 2).2 = .ok ⟨.on, 3, false⟩ := rfl
    have hsent : (((warming 1).start 2).1.send 1 .press).2 = .ok () := rfl
    rcases before with _ | ⟨first, _ | ⟨second, before⟩⟩
    · cases hcalls
      rintro ⟨state, steps, herr⟩
      cases hstarted.symm.trans herr
    · cases hcalls
      rintro ⟨state, steps, herr⟩
      cases hsent.symm.trans herr
    · simp at hcalls

end Macrostep
