/-
# How long an effect is active

An effect that was attempted is active as long as its state is neither left nor stopped, if its
factory gave back a handle (`Interpreter.Course.active_iff`).  The journal tells of both: what an
attempt ended with (`Interpreter.Course.concluded`), and what has come since
(`Lived.since_attempt`).
-/
import Macrostep.Proofs.EffectRenewal
import Macrostep.Proofs.SilentMachines
import Macrostep.Proofs.TickerSchedule

namespace Macrostep

open Occurrence

variable {S C E K O : Type}

/-! ## Where an attempt stands in a journal -/

/-- Whether a state is left, or everything ends. -/
def Occurrence.isDeparture : Occurrence S C E O → Bool
  | transitioned .. | stopped _ => true
  | _ => false

lemma Occurrence.isDeparture_of_isLife {o : Occurrence S C E O} (h : o.isLife = false) :
    o.isDeparture = false := by
  cases o <;> first | rfl | cases h

/-- Whether an effect was attempted since the last state was entered. -/
def Tenancy.isTried : Tenancy S → Bool
  | starting | failed | active | left => true
  | _ => false

namespace Lived

variable [DecidableEq S] {d : Definition S C E K O} {l past rest : List (Occurrence S C E O)}
  {tenancy : Tenancy S} {n g : Nat} {state : S} {context : C}

lemma isTried_onEntry (d : Definition S C E K O) (state : S) :
    (Tenancy.onEntry d state).isTried = false := by
  rcases Tenancy.onEntry_cases d state with h | h <;> rw [h] <;> rfl

omit [DecidableEq S] in
/-- What was attempted before the end of a list, if the list does not end with an attempt. -/
lemma split_before_end {o : Occurrence S C E O} (ho : o.attempt? = none)
    (h : l ++ [o] = past ++ .launching state context g :: rest) :
    ∃ rest', rest = rest' ++ [o] ∧ l = past ++ .launching state context g :: rest' := by
  rcases concat_eq_split h with ⟨-, -, rfl⟩ | ⟨rest', rfl⟩
  · cases ho
  · rw [List.append_assoc, List.cons_append] at h
    exact ⟨rest', (List.cons.inj (List.append_cancel_left h)).2.symm, rfl⟩

/-- No state has been left since an attempt exactly if the attempt is the last one and its state has
not been left. -/
theorem since_attempt (h : Lived d l tenancy n)
    (hl : l = past ++ .launching state context g :: rest) :
    g ≤ n ∧ ((∀ o ∈ rest, o.isDeparture = false) ↔ g = n ∧ tenancy.isTried = true) := by
  -- what comes next belongs to the stay in the state, or it is the departure
  have hstay {rest' : List (Occurrence S C E O)} {o : Occurrence S C E O} {t t' : Tenancy S}
      {m : Nat} (ih : g ≤ m ∧ ((∀ a ∈ rest', a.isDeparture = false) ↔ g = m ∧ t.isTried = true))
      (ho : o.isDeparture = false) (ht : t'.isTried = t.isTried) :
      g ≤ m ∧ ((∀ a ∈ rest' ++ [o], a.isDeparture = false) ↔ g = m ∧ t'.isTried = true) := by
    rw [ht, ← ih.2, List.forall_mem_append, List.forall_mem_singleton]
    exact ⟨ih.1, and_iff_left ho⟩
  have hleave {rest' : List (Occurrence S C E O)} {o : Occurrence S C E O} {t' : Tenancy S}
      {m : Nat} (hle : g ≤ m) (ho : o.isDeparture = true) (ht : t'.isTried = false) :
      g ≤ m ∧ ((∀ a ∈ rest' ++ [o], a.isDeparture = false) ↔ g = m ∧ t'.isTried = true) := by
    rw [List.forall_mem_append, List.forall_mem_singleton, ho, ht]
    exact ⟨hle, by simp⟩
  induction h generalizing rest with
  | nil => exact absurd hl (by simp)
  | skip h ho ih =>
    obtain ⟨rest', rfl, hl'⟩ := split_before_end (attempt?_of_isLife ho) hl
    exact hstay (ih hl') (isDeparture_of_isLife ho) rfl
  | start h state ih =>
    obtain ⟨rest', rfl, hl'⟩ := split_before_end rfl hl
    exact hstay (ih hl') rfl (isTried_onEntry d state)
  | enter h hfree source target event ih =>
    obtain ⟨rest', rfl, hl'⟩ := split_before_end rfl hl
    exact hleave (ih hl').1 rfl (isTried_onEntry d target)
  | attempt h context ih =>
    rcases concat_eq_split hl with ⟨rfl, -, heq⟩ | ⟨rest', hl'⟩
    · cases heq
      exact ⟨Nat.le_refl _, by simp [Tenancy.isTried]⟩
    · -- another state has been entered since
      obtain ⟨hle, hiff⟩ := ih hl'
      rw [hl', List.append_assoc] at hl
      obtain ⟨-, rfl⟩ := List.cons.inj (List.append_cancel_left hl)
      refine ⟨by omega, fun hno => ?_, fun hlast => by omega⟩
      have hbefore := hiff.mp fun o ho => hno o (List.mem_append_left _ ho)
      cases hbefore.2
  | success h id ih =>
    obtain ⟨rest', rfl, hl'⟩ := split_before_end rfl hl
    exact hstay (ih hl') rfl rfl
  | failure h error ih =>
    obtain ⟨rest', rfl, hl'⟩ := split_before_end rfl hl
    exact hstay (ih hl') rfl rfl
  | cleanup h ih =>
    obtain ⟨rest', rfl, hl'⟩ := split_before_end rfl hl
    exact hstay (ih hl') rfl rfl
  | stop h hfree state ih =>
    obtain ⟨rest', rfl, hl'⟩ := split_before_end rfl hl
    exact hleave (ih hl').1 rfl rfl
  | cancel h state ih =>
    obtain ⟨rest', rfl, hl'⟩ := split_before_end rfl hl
    exact hleave (ih hl').1 rfl rfl

end Lived

namespace Interpreter

variable [DecidableEq S] [Label S] [DecidableEq K] [Kinded E K] {d : Definition S C E K O}
  {options : Options} {it it' it₀ : Interpreter S C E K O}

/-- The effect with this number is active. -/
def Active (it : Interpreter S C E K O) (g : Nat) : Prop :=
  it.effect.map ActiveEffect.generation = some g

omit [DecidableEq S] [Label S] [DecidableEq K] [Kinded E K] in
lemma active_iff_exists {g : Nat} :
    it.Active g ↔ ∃ active, it.effect = some active ∧ active.generation = g :=
  Option.map_eq_some_iff

/-- Attempts end as their factories say, and nobody takes the timers away. -/
lemma Move.concluded (h : it.Move it')
    (hlisten : it.status = .stopped ∨ it.inbox.reception = .listening) :
    it'.timers = it.timers ∧
      ∃ told, it'.journal = it.journal ++ told ∧ Concluded it.definition it.timers told := by
  have hsame : ∃ told, it.journal = it.journal ++ told ∧ Concluded it.definition it.timers told :=
    ⟨[], (List.append_nil _).symm, rfl⟩
  have hbeside {told : List (Occurrence S C E O)} {there : Interpreter S C E K O}
      (h : it.Beside told there) : ∃ told, there.journal = it.journal ++ told ∧
        Concluded it.definition it.timers told :=
    ⟨told, h.journal, .of_isLife fun o ho => isLife_of_isAside (h.isAside o ho)⟩
  rcases h.renews with hrenews | ⟨time, most, rfl⟩ | rfl
  · refine ⟨hrenews.timers, ?_⟩
    rcases hlisten with hstopped | hlistening
    · rcases h.beside_or with
        ⟨told, hmove⟩ | ⟨hstatus, -⟩ | ⟨hstatus, -⟩ | rfl
      · exact hbeside hmove
      · cases hstopped.symm.trans hstatus
      · cases hstopped.symm.trans hstatus
      · rwa [stop_of_stopped hstopped]
    · obtain ⟨told, hrenew⟩ := hrenews.renewing
      exact ⟨told, hrenew.journal, hrenew.concluded (by simp [Inbox.accepting, hlistening])⟩
  · obtain ⟨told, hmove⟩ := Beside.advanceTo it time most
    obtain ⟨inbox, recorded, effect, hframe⟩ := it.advanceTo_frame time most
    exact ⟨by rw [hframe], hbeside hmove⟩
  · by_cases hstopped : it.status = .stopped
    · rw [stop_of_stopped hstopped]
      exact ⟨rfl, hsame⟩
    · obtain ⟨told, hhalt⟩ := stop_spec hstopped
      exact ⟨by rw [stop_eq hstopped]; rfl, told, hhalt.journal, .idle hhalt.idle⟩

/-- Every attempt ends as its factory says. -/
theorem Course.concluded (hfresh : Fresh d options it₀) (hcourse : it₀.Course it) :
    it.timers = it₀.timers ∧ Concluded d it₀.timers it.journal := by
  induction hcourse with
  | refl =>
    rw [journal, hfresh.blank.recorded]
    exact ⟨rfl, rfl⟩
  | tail hcourse hmove ih =>
    obtain ⟨htimers, told, hjournal, hconcluded⟩ :=
      hmove.concluded (Course.listening hfresh hcourse)
    rw [(Course.sound hfresh hcourse).1.definition, ih.1] at hconcluded
    rw [hjournal, htimers]
    exact ⟨ih.1, ih.2.append hconcluded⟩

/-- The attempts are numbered. -/
lemma Course.numbers (hfresh : Fresh d options it₀) (hcourse : it₀.Course it) :
    (it.journal.filterMap attempt?).map (·.2.2) = List.range' 1 it.generation := by
  obtain ⟨hattempts, hcount⟩ := (Course.sound hfresh hcourse).2.attempts
  rw [hattempts, map_number_numbered, hcount]
  simp

/-- No two attempts have the same number. -/
lemma Course.nodup_numbers (hfresh : Fresh d options it₀) (hcourse : it₀.Course it) :
    ((it.journal.filterMap attempt?).map (·.2.2)).Nodup := by
  rw [Course.numbers hfresh hcourse]
  exact List.nodup_range'

/-- **An effect is active until its state is left or everything ends**, if its factory gave back a
handle. -/
theorem Course.active_iff (hfresh : Fresh d options it₀) (hcourse : it₀.Course it) {state : S}
    {context : C} {g : Nat} {past rest : List (Occurrence S C E O)}
    (hjournal : it.journal = past ++ .launching state context g :: rest)
    (hanswer : d.answer? it₀.timers (state, context, g) = some (.ok g)) :
    it.Active g ↔ ∀ o ∈ rest, o.isDeparture = false := by
  obtain ⟨tenancy, hlived, hstanding⟩ := Course.household hfresh hcourse
  have hconcluded := (Course.concluded hfresh hcourse).2
  have hsuccess : g ∈ it.journal.filterMap success? := by
    have hattempt : (state, context, g) ∈ it.journal.filterMap attempt? := by
      refine List.mem_filterMap.mpr ⟨.launching state context g, ?_, rfl⟩
      rw [hjournal]
      exact List.mem_append_right _ List.mem_cons_self
    have hmem : .ok g ∈ it.journal.filterMap outcome? := by
      rw [hconcluded]
      exact List.mem_filterMap.mpr ⟨_, hattempt, hanswer⟩
    obtain ⟨o, ho, houtcome⟩ := List.mem_filterMap.mp hmem
    cases o <;> cases houtcome
    exact List.mem_filterMap.mpr ⟨_, ho, rfl⟩
  rw [(hlived.since_attempt hjournal).2]
  have hnone (hno : it.running? = none) : ¬ it.Active g := by
    rw [Active, (running?_eq_none_iff it).mp hno]
    nofun
  cases hstanding with
  | active hstatus hsome hattempt hstart hactive =>
    obtain ⟨active, heffect, hpair⟩ := Option.map_eq_some_iff.mp hactive
    have hnumber : active.generation = it.generation := (Prod.mk.inj hpair).1
    rw [Active, heffect, Option.map_some, hnumber, Option.some.injEq]
    exact ⟨fun h => ⟨h.symm, rfl⟩, fun h => h.1.symm⟩
  | failed hstatus hsome hno =>
    -- the attempt that failed is another one
    exact iff_of_false (hnone hno) fun h => (hlived.success_le g hsuccess).2 rfl h.1
  | vacant hstatus hno => exact iff_of_false (hnone hno) fun h => nomatch h.2
  | idle hstatus hquiet hno => exact iff_of_false (hnone hno) fun h => nomatch h.2
  | ended hstatus hno => exact iff_of_false (hnone hno) fun h => nomatch h.2

end Interpreter

end Macrostep
