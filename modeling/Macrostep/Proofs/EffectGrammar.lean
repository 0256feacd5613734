/-
# The life of effects

An effect is attempted when a state that invokes one is entered, and one that was started is
cleaned up before the state is left or the interpreter ends.  `Lived d journal tenancy n` is the
grammar of this: it says that a journal tells of effects in a proper order, how things stand at its
end, and that `n` starts were attempted.  Reading a journal by this grammar gives the laws: every
effect that was started has been cleaned up once, or it is the active one (`Lived.cleanups`); when
a start is attempted its state has just been entered and nothing is active
(`Lived.before_attempt`); and every attempt succeeds or fails (`Lived.outcomes`).
-/
import Macrostep.Proofs.JournalOrder

namespace Macrostep

open Occurrence

variable {S C E K O : Type}

/-- How things stand with the effect of the current state. -/
inductive Tenancy (S : Type)
  /-- No state has been entered yet. -/
  | vacant
  /-- A state has been entered, and its effect is the next thing to be started. -/
  | due (state : S)
  /-- The start of an effect is under way. -/
  | starting
  /-- The current state invokes no effect. -/
  | idle
  /-- The effect of the current state did not start. -/
  | failed
  /-- The effect of the current state is active. -/
  | active
  /-- The effect was cleaned up. -/
  | left
  /-- Everything has ended. -/
  | ended

/-- Whether nothing of an effect is left to be done before the current state is left. -/
def Tenancy.isFree : Tenancy S → Bool
  | idle | failed | left => true
  | _ => false

section

variable [DecidableEq S]

/-- How things stand when a state has been entered. -/
def Tenancy.onEntry (d : Definition S C E K O) (state : S) : Tenancy S :=
  if (d.effect? state).isSome then .due state else .idle

lemma Tenancy.onEntry_cases (d : Definition S C E K O) (state : S) :
    onEntry d state = .due state ∨ onEntry d state = .idle := by
  unfold onEntry
  split
  · exact .inl rfl
  · exact .inr rfl

/-- A journal that tells of effects in a proper order, how things stand at its end, and the number
of attempted starts. -/
inductive Lived (d : Definition S C E K O) : List (Occurrence S C E O) → Tenancy S → Nat → Prop
  | nil : Lived d [] .vacant 0
  /-- What is not of the life of effects changes nothing. -/
  | skip {l : List (Occurrence S C E O)} {tenancy : Tenancy S} {n : Nat} {o : Occurrence S C E O}
      (h : Lived d l tenancy n) (ho : o.isLife = false) : Lived d (l ++ [o]) tenancy n
  /-- The start enters the first state. -/
  | start {l : List (Occurrence S C E O)} {n : Nat} (h : Lived d l .vacant n) (state : S) :
      Lived d (l ++ [.started state]) (.onEntry d state) n
  /-- A transition enters its target. -/
  | enter {l : List (Occurrence S C E O)} {tenancy : Tenancy S} {n : Nat} (h : Lived d l tenancy n)
      (hfree : tenancy.isFree = true) (source target : S) (event : Option E) :
      Lived d (l ++ [.transitioned source target event]) (.onEntry d target) n
  /-- The start of the effect is attempted, under the next number. -/
  | attempt {l : List (Occurrence S C E O)} {n : Nat} {state : S} (h : Lived d l (.due state) n)
      (context : C) : Lived d (l ++ [.launching state context (n + 1)]) .starting (n + 1)
  /-- It succeeds. -/
  | success {l : List (Occurrence S C E O)} {n : Nat} (h : Lived d l .starting n) (id : String) :
      Lived d (l ++ [.launched id n]) .active n
  /-- It fails. -/
  | failure {l : List (Occurrence S C E O)} {n : Nat} (h : Lived d l .starting n)
      (error : EffectError) : Lived d (l ++ [.launchFailed error]) .failed n
  /-- The effect is cleaned up. -/
  | cleanup {l : List (Occurrence S C E O)} {n : Nat} (h : Lived d l .active n) :
      Lived d (l ++ [.cleaned n]) .left n
  /-- Everything ends. -/
  | stop {l : List (Occurrence S C E O)} {tenancy : Tenancy S} {n : Nat} (h : Lived d l tenancy n)
      (hfree : tenancy.isFree = true) (state : S) : Lived d (l ++ [.stopped state]) .ended n
  /-- Everything ends before it has begun. -/
  | cancel {l : List (Occurrence S C E O)} {n : Nat} (h : Lived d l .vacant n) (state : S) :
      Lived d (l ++ [.stopped state]) .ended n

namespace Lived

variable {d : Definition S C E K O} {l more past rest : List (Occurrence S C E O)}
  {tenancy : Tenancy S} {n : Nat}

lemma skips (h : Lived d l tenancy n) (hmore : ∀ o ∈ more, o.isLife = false) :
    Lived d (l ++ more) tenancy n := by
  induction more generalizing l with
  | nil => rwa [List.append_nil]
  | cons o more ih =>
    have hnext := ih (h.skip (hmore o List.mem_cons_self)) fun o' ho' =>
      hmore o' (List.mem_cons_of_mem _ ho')
    rwa [List.append_assoc] at hnext

/-- Something is inserted before the end of a list, or it is added there. -/
lemma insert_concat {before behind : List (Occurrence S C E O)} {o a : Occurrence S C E O}
    (ho : o.isLife = false) (hl : l ++ [a] = before ++ behind) (h : Lived d (l ++ [a]) tenancy n)
    (hinside : ∀ inner, l = before ++ inner → Lived d (before ++ o :: inner ++ [a]) tenancy n) :
    Lived d (before ++ o :: behind) tenancy n := by
  rcases List.eq_nil_or_concat behind with rfl | ⟨inner, b, rfl⟩
  · rw [List.append_nil] at hl
    rw [← hl]
    exact h.skip ho
  · rw [List.concat_eq_append, ← List.append_assoc] at hl
    obtain ⟨hbefore, hlast⟩ := List.append_inj' hl rfl
    obtain rfl := List.singleton_inj.mp hlast
    simpa using hinside inner hbefore

/-- What is not of the life of effects may stand anywhere. -/
lemma insert (h : Lived d l tenancy n) {before behind : List (Occurrence S C E O)}
    {o : Occurrence S C E O} (ho : o.isLife = false) (hl : l = before ++ behind) :
    Lived d (before ++ o :: behind) tenancy n := by
  induction h generalizing behind with
  | nil =>
    obtain ⟨rfl, rfl⟩ := List.nil_eq_append_iff.mp hl
    exact Lived.nil.skip ho
  | skip h ho' ih => exact insert_concat ho hl (h.skip ho') fun _ hb => (ih hb).skip ho'
  | start h state ih => exact insert_concat ho hl (h.start state) fun _ hb => (ih hb).start state
  | enter h hfree source target event ih =>
    exact insert_concat ho hl (h.enter hfree source target event) fun _ hb =>
      (ih hb).enter hfree source target event
  | attempt h context ih =>
    exact insert_concat ho hl (h.attempt context) fun _ hb => (ih hb).attempt context
  | success h id ih => exact insert_concat ho hl (h.success id) fun _ hb => (ih hb).success id
  | failure h error ih =>
    exact insert_concat ho hl (h.failure error) fun _ hb => (ih hb).failure error
  | cleanup h ih => exact insert_concat ho hl h.cleanup fun _ hb => (ih hb).cleanup
  | stop h hfree state ih =>
    exact insert_concat ho hl (h.stop hfree state) fun _ hb => (ih hb).stop hfree state
  | cancel h state ih => exact insert_concat ho hl (h.cancel state) fun _ hb => (ih hb).cancel state

lemma woven {sent more' : List (Occurrence S C E O)} (h : Lived d (l ++ more) tenancy n)
    (hwoven : Interleaved more sent more') (hsent : ∀ o ∈ sent, o.isLife = false) :
    Lived d (l ++ more') tenancy n := by
  induction hwoven generalizing l with
  | nil => exact h
  | keep o hwoven ih =>
    rw [List.append_cons] at h ⊢
    exact ih h hsent
  | insert o hwoven ih =>
    rw [List.forall_mem_cons] at hsent
    exact (ih h hsent.2).insert hsent.1 rfl

/-- The number of the active effect, if there is one. -/
def runs : Tenancy S → Nat → List Nat
  | .active, n => [n]
  | _, _ => []

lemma runs_onEntry (d : Definition S C E K O) (state : S) (n : Nat) :
    runs (.onEntry d state) n = [] := by
  rcases Tenancy.onEntry_cases d state with h | h <;> rw [h] <;> rfl

omit [DecidableEq S] in
lemma runs_of_isFree (h : tenancy.isFree = true) (n : Nat) : runs tenancy n = [] := by
  cases tenancy <;> first | rfl | cases h

/-- Every effect that was started has been cleaned up, in the order of the starts, except for the
active one. -/
theorem cleanups (h : Lived d l tenancy n) :
    l.filterMap cleanup? ++ runs tenancy n = l.filterMap success? := by
  induction h with
  | nil => rfl
  | @skip l tenancy n o h ho ih =>
    simpa [cleanup?_of_isLife ho, success?_of_isLife ho] using ih
  | start h state ih =>
    rw [runs_onEntry]
    simpa [List.filterMap_cons, cleanup?, success?, runs] using ih
  | enter h hfree source target event ih =>
    rw [runs_of_isFree hfree] at ih
    rw [runs_onEntry]
    simpa [List.filterMap_cons, cleanup?, success?] using ih
  | attempt h context ih => simpa [List.filterMap_cons, cleanup?, success?, runs] using ih
  | success h id ih => simpa [List.filterMap_cons, cleanup?, success?, runs] using ih
  | failure h error ih => simpa [List.filterMap_cons, cleanup?, success?, runs] using ih
  | cleanup h ih => simpa [List.filterMap_cons, cleanup?, success?, runs] using ih
  | stop h hfree state ih =>
    rw [runs_of_isFree hfree] at ih
    simpa [List.filterMap_cons, cleanup?, success?, runs] using ih
  | cancel h state ih => simpa [List.filterMap_cons, cleanup?, success?, runs] using ih

/-- Whether the last attempt has not led to an effect. -/
def isBarren : Tenancy S → Bool
  | .starting | .failed => true
  | _ => false

lemma isBarren_onEntry (d : Definition S C E K O) (state : S) :
    isBarren (.onEntry d state) = false := by
  rcases Tenancy.onEntry_cases d state with h | h <;> rw [h] <;> rfl

/-- The effects that were started bear numbers up to that of the last attempt, and less than that if
it led to no effect. -/
lemma success_le (h : Lived d l tenancy n) :
    ∀ g ∈ l.filterMap success?, g ≤ n ∧ (isBarren tenancy = true → g ≠ n) := by
  induction h with
  | nil => simp
  | @skip l tenancy n o h ho ih =>
    simpa [List.filterMap_cons, success?_of_isLife ho] using ih
  | start h state ih =>
    intro g hg
    rw [isBarren_onEntry]
    exact ⟨(ih g (by simpa [List.filterMap_cons, success?] using hg)).1, nofun⟩
  | enter h hfree source target event ih =>
    intro g hg
    rw [isBarren_onEntry]
    exact ⟨(ih g (by simpa [List.filterMap_cons, success?] using hg)).1, nofun⟩
  | attempt h context ih =>
    intro g hg
    have hle := (ih g (by simpa [List.filterMap_cons, success?] using hg)).1
    exact ⟨by omega, fun _ => by omega⟩
  | success h id ih =>
    intro g hg
    rw [List.filterMap_append, List.mem_append] at hg
    refine ⟨?_, nofun⟩
    rcases hg with hg | hg
    · exact (ih g hg).1
    · exact Nat.le_of_eq (List.mem_singleton.mp hg)
  | failure h error ih =>
    intro g hg
    have hbefore := ih g (by simpa [List.filterMap_cons, success?] using hg)
    exact ⟨hbefore.1, fun _ => hbefore.2 rfl⟩
  | cleanup h ih =>
    intro g hg
    exact ⟨(ih g (by simpa [List.filterMap_cons, success?] using hg)).1, nofun⟩
  | stop h hfree state ih =>
    intro g hg
    exact ⟨(ih g (by simpa [List.filterMap_cons, success?] using hg)).1, nofun⟩
  | cancel h state ih =>
    intro g hg
    exact ⟨(ih g (by simpa [List.filterMap_cons, success?] using hg)).1, nofun⟩

/-- No effect is started twice. -/
theorem nodup_successes (h : Lived d l tenancy n) : (l.filterMap success?).Nodup := by
  induction h with
  | nil => simp
  | @skip l tenancy n o h ho ih =>
    simpa [List.filterMap_cons, success?_of_isLife ho] using ih
  | success h id ih =>
    rw [List.filterMap_append, List.nodup_append]
    -- the number of the attempt is greater than that of every effect before
    refine ⟨ih, by simp [success?], ?_⟩
    intro g hg g' hg' heq
    have hbefore := (h.success_le g hg).2 rfl
    simp only [success?, List.filterMap_cons, List.filterMap_nil, List.mem_singleton] at hg'
    exact hbefore (heq.trans hg')
  | _ => simpa [List.filterMap_cons, success?] using ‹_›

lemma onEntry_ne_starting (d : Definition S C E K O) (state : S) :
    Tenancy.onEntry d state ≠ .starting := by
  rcases Tenancy.onEntry_cases d state with h | h <;> rw [h] <;> nofun

/-- A list that ends is cut at its last element or before it. -/
lemma concat_eq_split {A : Type} {l past rest : List A} {a b : A}
    (h : l ++ [a] = past ++ b :: rest) :
    (rest = [] ∧ past = l ∧ b = a) ∨ ∃ rest', l = past ++ b :: rest' := by
  rcases split_append h with ⟨tail, hl, -⟩ | ⟨head, rfl, hlast⟩
  · exact .inr ⟨tail, hl⟩
  · cases head with
    | nil =>
      obtain ⟨rfl, rfl⟩ := List.cons.inj hlast
      exact .inl ⟨rfl, List.append_nil l, rfl⟩
    | cons o head => exact absurd (congrArg List.length hlast) (by simp)

/-- Whenever a start is attempted, its state has just been entered. -/
theorem before_attempt (h : Lived d l tenancy n) {state : S} {context : C} {g : Nat}
    (hl : l = past ++ .launching state context g :: rest) :
    ∃ m, Lived d past (.due state) m ∧ g = m + 1 := by
  induction h generalizing rest with
  | nil => exact absurd hl (by simp)
  | skip h ho ih =>
    rcases concat_eq_split hl with ⟨-, -, rfl⟩ | ⟨rest', hl'⟩
    · cases ho
    · exact ih hl'
  | attempt h context ih =>
    rcases concat_eq_split hl with ⟨-, rfl, heq⟩ | ⟨rest', hl'⟩
    · cases heq
      exact ⟨_, h, rfl⟩
    · exact ih hl'
  | _ =>
    rename_i ih
    rcases concat_eq_split hl with ⟨-, -, heq⟩ | ⟨rest', hl'⟩
    · cases heq
    · exact ih hl'

/-- A start that is under way was attempted last. -/
lemma of_starting (h : Lived d l tenancy n) (hstarting : tenancy = .starting) :
    ∃ before state context during, l = before ++ .launching state context n :: during ∧
      ∀ o ∈ during, o.isLife = false := by
  induction h with
  | @skip l tenancy n o h ho ih =>
    obtain ⟨before, state, context, during, rfl, hduring⟩ := ih hstarting
    refine ⟨before, state, context, during ++ [o], by simp, fun o hmem => ?_⟩
    rcases List.mem_append.mp hmem with hmem | hmem
    · exact hduring o hmem
    · rwa [List.mem_singleton.mp hmem]
  | @attempt l n state h context => exact ⟨l, state, context, [], rfl, by simp⟩
  | start h state => exact absurd hstarting (onEntry_ne_starting d state)
  | enter h hfree source target event => exact absurd hstarting (onEntry_ne_starting d target)
  | _ => cases hstarting

/-- An attempt that failed leads to no effect, not even later. -/
theorem after_failure (h : Lived d l tenancy n) {error : EffectError}
    (hl : l = past ++ .launchFailed error :: rest) :
    ∃ m, Lived d past .starting m ∧ m ≤ n ∧ (tenancy = .starting → m < n) ∧
      m ∉ l.filterMap success? := by
  induction h generalizing rest with
  | nil => exact absurd hl (by simp)
  | @skip l tenancy n o h ho ih =>
    rcases concat_eq_split hl with ⟨-, -, rfl⟩ | ⟨rest', hl'⟩
    · cases ho
    · have hno := success?_of_isLife ho
      obtain ⟨m, hpast, hle, hlt, hnot⟩ := ih hl'
      exact ⟨m, hpast, hle, hlt, by simpa [List.filterMap_cons, hno] using hnot⟩
  | attempt h context ih =>
    rcases concat_eq_split hl with ⟨-, -, heq⟩ | ⟨rest', hl'⟩
    · cases heq
    · obtain ⟨m, hpast, hle, -, hnot⟩ := ih hl'
      exact ⟨m, hpast, by omega, fun _ => by omega,
        by simpa [List.filterMap_cons, success?] using hnot⟩
  | @success l n h id ih =>
    rcases concat_eq_split hl with ⟨-, -, heq⟩ | ⟨rest', hl'⟩
    · cases heq
    · -- the attempt that succeeds is a later one
      obtain ⟨m, hpast, hle, hlt, hnot⟩ := ih hl'
      have hne : m ≠ n := Nat.ne_of_lt (hlt rfl)
      refine ⟨m, hpast, hle, nofun, ?_⟩
      simpa [List.filterMap_cons, success?, hne] using hnot
  | failure h error ih =>
    rcases concat_eq_split hl with ⟨-, rfl, -⟩ | ⟨rest', hl'⟩
    · refine ⟨_, h, Nat.le_refl _, nofun, fun hmem => ?_⟩
      exact (h.success_le _ (by simpa [List.filterMap_cons, success?] using hmem)).2 rfl rfl
    · obtain ⟨m, hpast, hle, -, hnot⟩ := ih hl'
      exact ⟨m, hpast, hle, nofun, by simpa [List.filterMap_cons, success?] using hnot⟩
  | start h state ih =>
    rcases concat_eq_split hl with ⟨-, -, heq⟩ | ⟨rest', hl'⟩
    · cases heq
    · obtain ⟨m, hpast, hle, -, hnot⟩ := ih hl'
      exact ⟨m, hpast, hle, fun h => absurd h (onEntry_ne_starting d state),
        by simpa [List.filterMap_cons, success?] using hnot⟩
  | enter h hfree source target event ih =>
    rcases concat_eq_split hl with ⟨-, -, heq⟩ | ⟨rest', hl'⟩
    · cases heq
    · obtain ⟨m, hpast, hle, -, hnot⟩ := ih hl'
      exact ⟨m, hpast, hle, fun h => absurd h (onEntry_ne_starting d target),
        by simpa [List.filterMap_cons, success?] using hnot⟩
  | _ =>
    rename_i ih
    rcases concat_eq_split hl with ⟨-, -, heq⟩ | ⟨rest', hl'⟩
    · cases heq
    · obtain ⟨m, hpast, hle, -, hnot⟩ := ih hl'
      exact ⟨m, hpast, hle, nofun, by simpa [List.filterMap_cons, success?] using hnot⟩

/-- The number of attempts that are under way. -/
def pending : Tenancy S → Nat
  | .starting => 1
  | _ => 0

lemma pending_onEntry (d : Definition S C E K O) (state : S) : pending (.onEntry d state) = 0 := by
  rcases Tenancy.onEntry_cases d state with h | h <;> rw [h] <;> rfl

omit [DecidableEq S] in
lemma pending_of_isFree (h : tenancy.isFree = true) : pending tenancy = 0 := by
  cases tenancy <;> first | rfl | cases h

/-- Every attempt succeeds or fails. -/
theorem outcomes (h : Lived d l tenancy n) :
    n = (l.filterMap success?).length + (l.filterMap failure?).length + pending tenancy := by
  induction h with
  | nil => rfl
  | @skip l tenancy n o h ho ih =>
    simpa [List.filterMap_cons, success?_of_isLife ho, failure?_of_isLife ho] using ih
  | start h state ih =>
    rw [pending_onEntry]
    simpa [List.filterMap_cons, success?, failure?, pending] using ih
  | enter h hfree source target event ih =>
    rw [pending_of_isFree hfree] at ih
    rw [pending_onEntry]
    simpa [List.filterMap_cons, success?, failure?] using ih
  | attempt h context ih => simpa [List.filterMap_cons, success?, failure?, pending] using ih
  | success h id ih =>
    simp only [List.filterMap_append, List.filterMap_cons, success?, failure?, pending] at ih ⊢
    simpa [Nat.add_right_comm] using ih
  | failure h error ih =>
    simpa [List.filterMap_cons, success?, failure?, pending, Nat.add_assoc] using ih
  | cleanup h ih => simpa [List.filterMap_cons, success?, failure?, pending] using ih
  | stop h hfree state ih =>
    rw [pending_of_isFree hfree] at ih
    simpa [List.filterMap_cons, success?, failure?, pending] using ih
  | cancel h state ih => simpa [List.filterMap_cons, success?, failure?, pending] using ih

end Lived

end

end Macrostep
