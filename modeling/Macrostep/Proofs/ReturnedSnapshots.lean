/-
# Positions that calls give back

A call that succeeds gives back the position in which it leaves the machine.  If it has handled
anything, the machine rests there, or the call would have failed.  A call that has handled nothing
gives back what was there before, and that is a position of rest too, unless eventless transitions
were cut in it by a call that failed (`Interpreter.returned_at_rest`).
-/
import Macrostep.Proofs.CutChains
import Macrostep.Proofs.GenuineSnapshots

namespace Macrostep

open Occurrence

namespace Interpreter

variable {S C E K O : Type} {it it₀ : Interpreter S C E K O} [DecidableEq S] [Label S]

lemma rests_of_verdict {s : Snapshot S C} (h : it.verdict s = .ok ()) :
    it.definition.rests s = true := by
  unfold verdict at h
  split at h
  · assumption
  · cases h

variable [DecidableEq K] [Kinded E K] {d : Definition S C E K O} {options : Options}

/-- An event that ends well was handled to a position of rest, or it was not handled. -/
lemma step_rests_or_idles {envelope : Envelope E} {inbox : Inbox E}
    (hok : (it.step envelope inbox).2 = .ok ()) :
    it.definition.rests (it.step envelope inbox).1.snapshot = true ∨
      it.Idles (it.step envelope inbox).1 := by
  rcases step_idles_or_verdict it envelope inbox with ⟨-, hidles⟩ | hverdict
  · exact .inr hidles
  · exact .inl (rests_of_verdict (hverdict.symm.trans hok))

/-- So are all events of an inbox that is emptied. -/
lemma drain_rests_or_idles (hfresh : Fresh d options it₀) (hcourse : it₀.Course it) {budget : Nat}
    (hok : (it.drain budget).2 = .ok ()) :
    d.rests (it.drain budget).1.snapshot = true ∨ it.Idles (it.drain budget).1 := by
  have hspec := drain_spec it budget
  generalize it.drain budget = r at hspec hok ⊢
  induction hspec with
  | done hdone => exact .inr (.refl _)
  | spent hstatus hwaiting => cases hok
  | @next here budget envelope inbox r hstatus hpop hstep hrest ih =>
    have hdefinition := (Course.sound hfresh hcourse).1.definition
    rcases ih (hcourse.tail (.turn hstatus hpop)) hok with hrests | hidles
    · exact .inl hrests
    -- nothing more was handled, so the position is the one that the first event led to
    · refine (step_rests_or_idles hstep).imp (fun hrests => ?_) fun h => h.trans hidles
      rwa [hidles.snapshot, ← hdefinition]
  | failed hstatus hpop herr => cases hok

/-- **What a successful call gives back.**  Whatever happened before, the position that the start of
a running machine or the processing of events gives back is one of rest, unless the machine was
suspended: eventless transitions were cut, which some call has told, and nothing was handled since,
nor by this call.  Then the position is the one in which they were cut. -/
theorem returned_at_rest (hfresh : Fresh d options it₀) (hcourse : it₀.Course it) (budget : Nat)
    (s : Snapshot S C) :
    ((it.start budget).2 = .ok s → (it.start budget).1.status = .running →
      d.rests s = true ∨ it.Suspended ∧ (it.start budget).1 = it ∧ s = it.snapshot) ∧
    ((it.processNext budget).2 = .settled s →
      d.rests s = true ∨
        it.Suspended ∧ it.Idles (it.processNext budget).1 ∧ s = it.snapshot) ∧
    ∀ calls, it = calls.foldl after it₀ → it.Suspended →
      ∃ before call rest, calls = before ++ call :: rest ∧ (before.foldl after it₀).Cuts call := by
  refine ⟨?_, ?_, ?_⟩
  · intro hreturn hrunning
    cases hstatus : it.status with
    | running =>
      rw [start_of_running hstatus] at hreturn ⊢
      obtain rfl := Except.ok.inj hreturn
      exact (Course.rests_or_suspended hfresh hcourse hstatus).imp_right fun h => ⟨h, rfl, rfl⟩
    | stopped =>
      rw [start_of_stopped hstatus] at hrunning
      cases hstatus.symm.trans hrunning
    | notStarted =>
      left
      have hposition := start_snapshot hreturn
      cases hbooting : it.booting.2 with
      | error error =>
        rw [start_of_error hstatus hbooting] at hreturn
        cases hreturn
      | ok u =>
        rw [start_of_ok hstatus hbooting] at hreturn hposition
        have hdrained : (it.booted.drain budget).2 = .ok () := by
          cases hdrain : (it.booted.drain budget).2 with
          | error error =>
            rw [hdrain] at hreturn
            cases hreturn
          | ok u => rfl
        have hdefinition := (Course.sound hfresh hcourse).1.definition
        have hbooted : d.rests it.booted.snapshot = true := by
          rw [← hdefinition]
          exact rests_of_verdict ((booting_verdict it).symm.trans hbooting)
        rw [hposition]
        rcases drain_rests_or_idles hfresh (hcourse.tail (.boot hstatus)) hdrained with
          hrests | hidles
        · exact hrests
        · rwa [hidles.snapshot]
  · intro hreturn
    obtain ⟨hstatus, hdrained, hlast, hposition⟩ := drain_of_settled hreturn
    rw [hlast]
    rcases drain_rests_or_idles hfresh hcourse hdrained with hrests | hidles
    · exact .inl (by rwa [hposition])
    · rw [show s = it.snapshot from hposition.trans hidles.snapshot]
      exact (Course.rests_or_suspended hfresh hcourse hstatus).imp_right fun h => ⟨h, hidles, rfl⟩
  · rintro calls rfl hsuspended
    exact exists_cuts_of_suspended hfresh hsuspended

end Interpreter

namespace Lamp

/-- The lamp to which no eventless transition is allowed. -/
def meagre : Interpreter State Nat Event Event Unit :=
  Interpreter.new lamp { maxEventlessSteps := 0 }

/-- That lamp after a press that warmed it up and another one that waits. -/
def stuck : Interpreter State Nat Event Event Unit :=
  [.start 1, .send 1 .press, .post .external .press].foldl Interpreter.after meagre

lemma meagre_fresh : Interpreter.Fresh lamp { maxEventlessSteps := 0 } meagre := .new 0 true

lemma stuck_course : meagre.Course stuck := Interpreter.foldl_after_course meagre _

end Lamp

open Lamp in
/-- Where eventless transitions were cut, starting again succeeds, and so does an event that is not
handled, though the machine does not rest. -/
theorem Interpreter.returned_unsettled_lamp :
    Interpreter.Fresh lamp { maxEventlessSteps := 0 } meagre ∧ meagre.Course stuck ∧
      (stuck.start 1).2 = .ok ⟨.warm, 1, false⟩ ∧ (stuck.start 1).1.status = .running ∧
      (stuck.processNext 1).2 = .settled ⟨.warm, 1, false⟩ ∧
      lamp.rests (⟨.warm, 1, false⟩ : Snapshot State Nat) = false :=
  ⟨meagre_fresh, stuck_course, rfl, rfl, rfl, rfl⟩

open Lamp in
theorem Interpreter.returned_at_rest_lamp :
    lamp.rests (⟨.off, 0, false⟩ : Snapshot State Nat) = true ∧ stuck.Suspended := by
  constructor
  · obtain ⟨hstart, -⟩ := returned_at_rest new_fresh .refl 1 ⟨.off, 0, false⟩
    exact (hstart rfl rfl).resolve_right fun h => nomatch congrArg Interpreter.status h.2.1
  · obtain ⟨-, hnext, -⟩ := returned_at_rest meagre_fresh stuck_course 1 ⟨.warm, 1, false⟩
    exact ((hnext rfl).resolve_left nofun).1

end Macrostep
