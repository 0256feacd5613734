/-
# The passing of time

The loop of a ticker sends once at each deadline.  How often that is by a given time is a floor: the
number of whole periods that have gone by since the first of these deadlines, and one
(`Ticker.run_eq`).  What is due since a start is counted as a whole number of periods
(`Ticker.dueCount_of_schedule`), so it makes no difference whether it is counted in one go or in
parts (`Ticker.dueCount_add`).

Time that passes puts what is due into the inbox (`Interpreter.waiting_advanceTo`) and puts the next
tick off by so many periods, and it does nothing else to the effect
(`Interpreter.effect_advanceTo`).  A way through other times leads to the same interpreter
(`Interpreter.advanceTo_foldl`).
-/
import Macrostep.Proofs.Moves

namespace Macrostep

namespace Ticker

variable {E : Type} {ticker : Ticker E} {due now time : Nat}

/-! ## The loop in closed form -/

/-- The number of deadlines up to a time, when the next one is at `due`. -/
def dueCount (ticker : Ticker E) (due time : Nat) : Nat :=
  if due ≤ time then (time - due) / ticker.period + 1 else 0

/-- The deadline after `count` more. -/
def dueAfter (ticker : Ticker E) (due count : Nat) : Nat := due + count * ticker.period

/-- A deadline that has come is one, and the others are counted from the next one on. -/
lemma dueCount_of_le (hdue : due ≤ time) :
    ticker.dueCount due time = ticker.dueCount (due + ticker.period) time + 1 := by
  have hperiod := ticker.period_pos
  rw [dueCount, dueCount, if_pos hdue]
  split
  · rename_i hnext
    have hpassed : time - due = time - (due + ticker.period) + ticker.period := by omega
    rw [hpassed, Nat.add_div_right _ hperiod]
  · rename_i hnext
    rw [Nat.div_eq_of_lt (by omega)]

lemma dueCount_of_lt (hdue : time < due) : ticker.dueCount due time = 0 :=
  if_neg (Nat.not_le.mpr hdue)

/-- There are no more deadlines than moments. -/
lemma dueCount_le (due time : Nat) : ticker.dueCount due time ≤ time + 1 := by
  rw [dueCount]
  split
  · exact Nat.succ_le_succ (Nat.le_trans (Nat.div_le_self ..) (Nat.sub_le ..))
  · exact Nat.zero_le _

lemma dueAfter_add (due m n : Nat) :
    ticker.dueAfter (ticker.dueAfter due m) n = ticker.dueAfter due (m + n) := by
  rw [dueAfter, dueAfter, dueAfter, Nat.add_mul, Nat.add_assoc]

/-- The loop sends once for each deadline, as long as it has turns left. -/
theorem run_eq {σ : Type} (send : σ → E → σ) (turns due : Nat) (here : σ) :
    ticker.run send time turns due here =
      ((List.replicate (min (ticker.dueCount due time) turns) ticker.event).foldl send here,
        ticker.dueAfter due (min (ticker.dueCount due time) turns)) := by
  induction turns generalizing due here with
  | zero => simp [run, dueAfter]
  | succ turns ih =>
    rw [run]
    split
    · rename_i hdue
      have hone : ticker.dueAfter due 1 = due + ticker.period := by rw [dueAfter, Nat.one_mul]
      rw [ih, dueCount_of_le hdue, Nat.succ_min_succ, Nat.succ_eq_one_add, ← dueAfter_add, hone,
        Nat.add_comm 1, List.replicate_succ, List.foldl_cons]
    · rename_i hdue
      simp [dueCount_of_lt (Nat.not_le.mp hdue), dueAfter]

/-! ## Deadlines since a start -/

/-- When one event has been due in each whole period since the start, the next one is due at the
end of the present period. -/
lemma dueCount_of_schedule (ticker : Ticker E) (htime : now ≤ time) (start : Nat) :
    (time - start) / ticker.period = (now - start) / ticker.period +
      ticker.dueCount (start + ((now - start) / ticker.period + 1) * ticker.period) time := by
  have hperiod := ticker.period_pos
  have hle : (now - start) / ticker.period ≤ (time - start) / ticker.period :=
    Nat.div_le_div_right (by omega)
  generalize hdone : (now - start) / ticker.period = done at hle
  rw [dueCount]
  split
  · rename_i hdue
    -- the periods that are over by now are taken off the time since the start
    have hrest : time - (start + (done + 1) * ticker.period) =
        time - start - ticker.period * (done + 1) := by
      rw [Nat.mul_comm ticker.period]
      omega
    have hmore : done + 1 ≤ (time - start) / ticker.period :=
      (Nat.le_div_iff_mul_le hperiod).mpr (by omega)
    rw [hrest, Nat.sub_mul_div]
    omega
  · rename_i hdue
    have hpos : 0 < (done + 1) * ticker.period := Nat.mul_pos done.succ_pos hperiod
    have hlt : (time - start) / ticker.period < done + 1 :=
      (Nat.div_lt_iff_lt_mul hperiod).mpr (by omega)
    omega

/-- What is due is counted in one go or in parts. -/
lemma dueCount_add (ticker : Ticker E) (htime : now ≤ time) (due : Nat) :
    ticker.dueCount due now +
        ticker.dueCount (ticker.dueAfter due (ticker.dueCount due now)) time =
      ticker.dueCount due time := by
  by_cases hdue : due ≤ now
  · have hschedule := ticker.dueCount_of_schedule htime due
    rw [dueAfter, dueCount, if_pos hdue]
    rw [show ticker.dueCount due time = (time - due) / ticker.period + 1 from
      if_pos (Nat.le_trans hdue htime), hschedule]
    omega
  · have hnone : ticker.dueCount due now = 0 := if_neg hdue
    rw [hnone, dueAfter]
    simp

end Ticker

namespace Interpreter

variable {S C E K O : Type} {it : Interpreter S C E K O} {active : ActiveEffect E O}
  {ticker : Ticker E} {now time : Nat}

/-! ## What the passing of time does -/

/-- The ticks of the active effect that are due by a time and have not been sent. -/
def overdue (it : Interpreter S C E K O) (time : Nat) : List (Envelope E) :=
  it.effect.elim [] fun active => active.handle.ticker.elim [] fun ticker =>
    List.replicate (ticker.dueCount active.due time) ⟨ticker.event, .effect active.generation⟩

lemma overdue_of_ticker (heffect : it.effect = some active)
    (hticker : active.handle.ticker = some ticker) (time : Nat) :
    it.overdue time = List.replicate (ticker.dueCount active.due time)
      ⟨ticker.event, .effect active.generation⟩ := by
  simp only [overdue, heffect, hticker, Option.elim_some]

/-- No effect is active that ticks. -/
def Silent (it : Interpreter S C E K O) : Prop :=
  ∀ active, it.effect = some active → active.handle.ticker = none

lemma silent_or_ticker (it : Interpreter S C E K O) :
    it.Silent ∨ ∃ active ticker, it.effect = some active ∧ active.handle.ticker = some ticker := by
  cases heffect : it.effect with
  | none => exact .inl (by simp [Silent, heffect])
  | some active =>
    cases hticker : active.handle.ticker with
    | none => exact .inl (by simpa [Silent, heffect] using hticker)
    | some ticker => exact .inr ⟨active, ticker, rfl, hticker⟩

lemma Silent.overdue (h : it.Silent) (time : Nat) : it.overdue time = [] := by
  unfold Interpreter.overdue
  cases heffect : it.effect with
  | none => rfl
  | some active => simp [h active heffect]

/-- Every overdue tick comes from the active effect. -/
lemma exists_of_mem_overdue {envelope : Envelope E} (h : envelope ∈ it.overdue time) :
    ∃ active, it.effect = some active ∧ envelope.origin = .effect active.generation := by
  rcases it.silent_or_ticker with hsilent | ⟨active, ticker, heffect, hticker⟩
  · rw [hsilent.overdue] at h
    cases h
  · rw [overdue_of_ticker heffect hticker] at h
    exact ⟨active, heffect, by rw [List.eq_of_mem_replicate h]⟩

/-- Without a ticker nothing happens while time passes. -/
lemma Silent.advanceTo (h : it.Silent) (time : Nat) (most : Option Nat) :
    it.advanceTo time most = { it with now := time } := by
  unfold Interpreter.advanceTo
  cases heffect : it.effect with
  | none => rfl
  | some active => simp only [h active heffect]

/-- A ticker sends as many events as there are deadlines, and the next one is put off. -/
lemma advanceTo_of_ticker (heffect : it.effect = some active)
    (hticker : active.handle.ticker = some ticker) (time : Nat) (most : Option Nat) :
    let due := ticker.dueCount active.due time
    let count := most.elim due (min due)
    it.advanceTo time most =
      { (List.replicate count ticker.event).foldl (enqueue · (.effect active.generation)) it with
        effect := some { active with due := ticker.dueAfter active.due count }
        now := time } := by
  intro due count
  have hcount : min due (most.getD (time + 1)) = count := by
    cases most with
    | none => exact Nat.min_eq_left (Ticker.dueCount_le ..)
    | some most => rfl
  simp only [Interpreter.advanceTo, heffect, hticker]
  rw [Ticker.run_eq, hcount]

/-- The effect keeps its number and its handle, and its next tick is put off. -/
lemma effect_advanceTo (it : Interpreter S C E K O) (time : Nat) (most : Option Nat) :
    (it.advanceTo time most).effect = it.effect.map fun active =>
      { active with
        due := active.handle.ticker.elim active.due fun ticker =>
          let due := ticker.dueCount active.due time
          ticker.dueAfter active.due (most.elim due (min due)) } := by
  rcases it.silent_or_ticker with hsilent | ⟨active, ticker, heffect, hticker⟩
  · rw [hsilent.advanceTo]
    cases heffect : it.effect with
    | none => rfl
    | some active => simp [hsilent active heffect]
  · rw [advanceTo_of_ticker heffect hticker]
    simp [heffect, hticker]

lemma exists_effect_of_advanceTo {most : Option Nat} {active' : ActiveEffect E O}
    (h : (it.advanceTo time most).effect = some active') :
    ∃ active, it.effect = some active := by
  rw [effect_advanceTo] at h
  obtain ⟨active, hactive, -⟩ := Option.map_eq_some_iff.mp h
  exact ⟨active, hactive⟩

/-- What is left alone while time passes. -/
lemma advanceTo_frame (it : Interpreter S C E K O) (time : Nat) (most : Option Nat) :
    ∃ inbox recorded effect,
      it.advanceTo time most = { it with inbox, recorded, effect, now := time } := by
  rcases it.advanceTo_cases time most with hadvance | ⟨active, events, due, -, hadvance⟩
  · exact ⟨it.inbox, it.recorded, it.effect, hadvance⟩
  · obtain ⟨inbox, recorded, hframe⟩ :=
      performAll_frame it (.effect active.generation) (events.map .send)
    rw [hframe] at hadvance
    exact ⟨inbox, recorded, _, hadvance⟩

/-- Everything that is due is put at the end of the inbox. -/
lemma waiting_advanceTo (haccepting : it.inbox.accepting = true) (time : Nat) :
    (it.advanceTo time).inbox.waiting = it.inbox.waiting ++ it.overdue time := by
  rcases it.silent_or_ticker with hsilent | ⟨active, ticker, heffect, hticker⟩
  · rw [hsilent.advanceTo, hsilent.overdue, List.append_nil]
  · let events := List.replicate (ticker.dueCount active.due time) ticker.event
    have hadds := performAll_adds it (.effect active.generation) (events.map .send)
    rw [← foldl_enqueue, haccepting, List.map_map] at hadds
    rw [advanceTo_of_ticker heffect hticker, overdue_of_ticker heffect hticker]
    refine hadds.waiting.trans (congrArg _ ?_)
    rw [List.filterMap_map]
    simp [events, List.filterMap_replicate, Output.report, Occurrence.accepted?]

/-! ## Time in parts -/

/-- To queue events has nothing to do with the effect and with the time. -/
lemma foldl_enqueue_with (origin : Origin) (events : List E) (effect : Option (ActiveEffect E O))
    (it : Interpreter S C E K O) (now : Nat) :
    events.foldl (enqueue · origin) { it with effect, now } =
      { events.foldl (enqueue · origin) it with effect, now } := by
  induction events generalizing it with
  | nil => rfl
  | cons event events ih =>
    have hfirst : enqueue { it with effect, now } origin event =
        { it.enqueue origin event with effect, now } := by
      simp only [enqueue]
      split <;> rfl
    rw [List.foldl_cons, List.foldl_cons, hfirst, ih]

/-- Time that passes in two parts. -/
lemma advanceTo_advanceTo (it : Interpreter S C E K O) (htime : now ≤ time) :
    (it.advanceTo now).advanceTo time = it.advanceTo time := by
  rcases it.silent_or_ticker with hsilent | ⟨active, ticker, heffect, hticker⟩
  · have hthere : Silent { it with now } := hsilent
    rw [hsilent.advanceTo, hsilent.advanceTo, hthere.advanceTo]
  · have hcount := ticker.dueCount_add htime active.due
    have hthere : (it.advanceTo now).effect = some { active with
        due := ticker.dueAfter active.due (ticker.dueCount active.due now) } := by
      rw [effect_advanceTo, heffect]
      simp [hticker]
    rw [advanceTo_of_ticker hthere hticker, advanceTo_of_ticker heffect hticker,
      advanceTo_of_ticker heffect hticker]
    simp only [Option.elim_none]
    rw [foldl_enqueue_with, ← List.foldl_append, List.replicate_append_replicate, hcount,
      Ticker.dueAfter_add, hcount]

/-- **Time that passes in any parts.** -/
theorem advanceTo_foldl (it : Interpreter S C E K O) {times : List Nat}
    (htimes : ∀ t ∈ times, t ≤ time) :
    (times.foldl (fun here t => here.advanceTo t) it).advanceTo time = it.advanceTo time := by
  induction times generalizing it with
  | nil => rfl
  | cons t times ih =>
    rw [List.forall_mem_cons] at htimes
    rw [List.foldl_cons, ih (it.advanceTo t) htimes.2, advanceTo_advanceTo it htimes.1]

end Interpreter

end Macrostep
