/-
# Intervals keep time

A run is timed (`Interpreter.Clocked`) when it is told how time passes in it: either a move takes no
time, or time passes and nothing else happens.  Of a timed run it is written down which effects were
attempted and when, and which ticks the passing of time has put into the inbox.

Through every timed run the active effect has ticked once in each whole period since its start, and
its next tick is due at the end of the present one (`Interpreter.Timely`).  Hence the ticks of an
interval follow the clock as long as it is active, and there are none afterwards
(`Interpreter.interval_keeps_time`).
-/
import Mathlib.Data.List.Nodup
import Macrostep.Proofs.EffectDuration
import Macrostep.Proofs.StaleEvents

namespace Macrostep

open Occurrence

variable {S C E K O : Type}

/-! ## The start of an interval -/

/-- The failure of an interval that is not started. -/
def intervalFailure (timers : Bool) (id : String) : EffectError :=
  if timers then .startFailed id "interval period must be non-zero" else .noRuntime id

/-- The handle of an interval that is started. -/
def intervalHandle (id : String) (period : Nat) (event : E) (hperiod : 0 < period) : Handle E O :=
  { id, cleanup := some fun _ => {}, ticker := some ⟨period, event, hperiod⟩ }

section

variable {id : String} {period : C → Nat} {event : E} {context : C}

/-- An interval starts where there are timers, with a period that is not zero. -/
lemma start_interval (outlet : Outlet) (hperiod : 0 < period context) :
    (interval id period event : Effect C E O).start ⟨outlet, true⟩ context =
      { result := .ok (intervalHandle id (period context) event hperiod) } := by
  have hne : period context ≠ 0 := Nat.ne_of_gt hperiod
  simp [Effect.start, interval, intervalHandle, hne, Except.map]

lemma start_interval_of_not {timers : Bool} (outlet : Outlet)
    (hno : ¬ (timers = true ∧ 0 < period context)) :
    (interval id period event : Effect C E O).start ⟨outlet, timers⟩ context =
      { result := .error (intervalFailure timers id) } := by
  cases timers with
  | false => rfl
  | true =>
    have hzero : period context = 0 := Nat.eq_zero_of_not_pos fun h => hno ⟨rfl, h⟩
    simp [Effect.start, interval, hzero, intervalFailure, Except.map]

end

/-- The ticks that carry the number `g`. -/
def ticksOf (g : Nat) (ticks : List (Envelope E)) : List (Envelope E) :=
  ticks.filter fun tick => tick.origin = .effect g

lemma ticksOf_append (g : Nat) (ticks more : List (Envelope E)) :
    ticksOf g (ticks ++ more) = ticksOf g ticks ++ ticksOf g more :=
  List.filter_append ..

lemma ticksOf_replicate (g count : Nat) (event : E) :
    ticksOf g (List.replicate count ⟨event, .effect g⟩) =
      List.replicate count ⟨event, .effect g⟩ := by
  simp [ticksOf]

lemma ticksOf_eq_nil {g : Nat} {ticks : List (Envelope E)}
    (h : ∀ tick ∈ ticks, tick.origin ≠ .effect g) : ticksOf g ticks = [] :=
  List.filter_eq_nil_iff.mpr fun tick htick => by simpa using h tick htick

namespace Interpreter

variable {d : Definition S C E K O} {options : Options} {it it' it₀ : Interpreter S C E K O}
  {told : List (Occurrence S C E O)} {entries : List (Nat × S × C × Nat)}
  {ticks queued : List (Envelope E)} {active active' : ActiveEffect E O} {start time g : Nat}

/-! ## Schedules -/

/-- Since `start` a ticker of the effect has ticked once in each whole period, and its next tick is
due at the end of the present one. -/
def OnSchedule (active : ActiveEffect E O) (start now : Nat) (ticks : List (Envelope E)) : Prop :=
  ∀ ticker, active.handle.ticker = some ticker →
    active.due = start + ((now - start) / ticker.period + 1) * ticker.period ∧
      ticksOf active.generation ticks =
        List.replicate ((now - start) / ticker.period) ⟨ticker.event, .effect active.generation⟩

namespace OnSchedule

/-- The first tick is one period away. -/
lemma begin (hdue : active.due = start + (active.handle.ticker.map Ticker.period).getD 0)
    (hticks : ticksOf active.generation ticks = []) : OnSchedule active start start ticks := by
  intro ticker hticker
  rw [hdue, hticker, hticks, Nat.sub_self, Nat.zero_div]
  exact ⟨by simp, rfl⟩

/-- A schedule is kept while time passes. -/
lemma pass (h : OnSchedule active start it.now ticks) (heffect : it.effect = some active)
    (htime : it.now ≤ time) (heffect' : (it.advanceTo time).effect = some active') :
    active'.generation = active.generation ∧ active'.handle = active.handle ∧
      OnSchedule active' start time (ticks ++ it.overdue time) := by
  rw [effect_advanceTo, heffect] at heffect'
  obtain rfl := Option.some.inj heffect'
  refine ⟨rfl, rfl, fun ticker hticker => ?_⟩
  have hticker' : active.handle.ticker = some ticker := hticker
  obtain ⟨hdue, hticks⟩ := h ticker hticker'
  have hcount := ticker.dueCount_of_schedule htime start
  rw [← hdue] at hcount
  rw [overdue_of_ticker heffect hticker', ticksOf_append, hticks, ticksOf_replicate, hcount,
    List.replicate_append_replicate]
  refine ⟨?_, rfl⟩
  simp only [hticker', Option.elim_some, Option.elim_none, Ticker.dueAfter]
  rw [hdue, Nat.add_assoc, ← Nat.add_mul, Nat.add_right_comm]

/-- Nothing is due while no time passes. -/
lemma stay (h : OnSchedule active start it.now ticks) (heffect : it.effect = some active)
    {most : Option Nat} (heffect' : (it.advanceTo it.now most).effect = some active') :
    active'.generation = active.generation ∧ active'.handle = active.handle ∧
      OnSchedule active' start it.now ticks := by
  rw [effect_advanceTo, heffect] at heffect'
  obtain rfl := Option.some.inj heffect'
  refine ⟨rfl, rfl, fun ticker hticker => ?_⟩
  have hticker' : active.handle.ticker = some ticker := hticker
  obtain ⟨hdue, hticks⟩ := h ticker hticker'
  have hcount := ticker.dueCount_of_schedule (Nat.le_refl it.now) start
  rw [← hdue] at hcount
  have hnone : ticker.dueCount active.due it.now = 0 := by omega
  refine ⟨?_, hticks⟩
  simp only [hticker', Option.elim_some, hnone, Ticker.dueAfter]
  cases most <;> simp [hdue]

end OnSchedule

section

variable [DecidableEq S]

/-- The attempt `g` was made at the time `start`, and its factory gave back the handle. -/
def Started (d : Definition S C E K O) (timers : Bool) (entries : List (Nat × S × C × Nat))
    (start g : Nat) (handle : Handle E O) : Prop :=
  ∃ state context effect outlet, (start, state, context, g) ∈ entries ∧
    d.effect? state = some effect ∧
    (effect.start ⟨outlet, timers⟩ context).result = .ok handle

lemma Started.append {timers : Bool} {handle : Handle E O}
    (h : Started d timers entries start g handle) (more : List (Nat × S × C × Nat)) :
    Started d timers (entries ++ more) start g handle := by
  obtain ⟨state, context, effect, outlet, hentry, hrest⟩ := h
  exact ⟨state, context, effect, outlet, List.mem_append_left _ hentry, hrest⟩

/-- What is written down of a timed run is right. -/
structure Timely (d : Definition S C E K O) (timers : Bool) (entries : List (Nat × S × C × Nat))
    (ticks : List (Envelope E)) (it : Interpreter S C E K O) : Prop where
  attempts : entries.map Prod.snd = it.journal.filterMap attempt?
  past : ∀ entry ∈ entries, entry.1 ≤ it.now
  /-- Every tick comes from an effect that was started. -/
  sources : ∀ tick ∈ ticks, ∃ start g handle, tick.origin = .effect g ∧
    Started d timers entries start g handle
  /-- The active effect is on schedule since its start. -/
  active : ∀ active, it.effect = some active → ∃ start,
    Started d timers entries start active.generation active.handle ∧
      OnSchedule active start it.now ticks

/-- An effect has not ticked before it was attempted. -/
lemma Timely.ticksOf_eq_nil {timers : Bool} (h : Timely d timers entries ticks it)
    {attempts : List (S × C × Nat)}
    (hnodup : ((it.journal.filterMap attempt? ++ attempts).map (·.2.2)).Nodup) {state : S}
    {context : C} (hattempt : (state, context, g) ∈ attempts) : ticksOf g ticks = [] := by
  refine Macrostep.ticksOf_eq_nil fun tick htick horigin => ?_
  obtain ⟨start, g', handle, horigin', state', context', effect, outlet, hentry, -⟩ :=
    h.sources tick htick
  obtain rfl : g' = g := Origin.effect.inj (horigin'.symm.trans horigin)
  rw [← h.attempts, List.map_append, List.nodup_append] at hnodup
  have hbefore : g' ∈ (entries.map Prod.snd).map (·.2.2) :=
    List.mem_map.mpr ⟨_, List.mem_map.mpr ⟨_, hentry, rfl⟩, rfl⟩
  exact hnodup.2.2 g' hbefore g' (List.mem_map.mpr ⟨_, hattempt, rfl⟩) rfl

end

/-! ## Timed runs -/

variable [DecidableEq S] [Label S] [DecidableEq K] [Kinded E K]

/-- What happens to an interpreter in the course of time, with the attempts to start an effect, each
with its time, and with the ticks that the passing of time has put into the inbox. -/
inductive Clocked (it₀ : Interpreter S C E K O) :
    List (Nat × S × C × Nat) → List (Envelope E) → Interpreter S C E K O → Prop
  | begin : Clocked it₀ [] [] it₀
  /-- Something happens, which takes no time. -/
  | move {entries : List (Nat × S × C × Nat)} {ticks : List (Envelope E)}
      {it it' : Interpreter S C E K O} {told : List (Occurrence S C E O)}
      (hrun : Clocked it₀ entries ticks it) (hmove : it.Move it') (hnow : it'.now = it.now)
      (hjournal : it'.journal = it.journal ++ told) :
      Clocked it₀ (entries ++ (told.filterMap attempt?).map (it.now, ·)) ticks it'
  /-- Time passes. -/
  | pass {entries : List (Nat × S × C × Nat)} {ticks queued : List (Envelope E)}
      {it : Interpreter S C E K O} {time : Nat} (hrun : Clocked it₀ entries ticks it)
      (htime : it.now ≤ time)
      (hwaiting : (it.advanceTo time).inbox.waiting = it.inbox.waiting ++ queued) :
      Clocked it₀ entries (ticks ++ queued) (it.advanceTo time)

lemma Clocked.course (hrun : it₀.Clocked entries ticks it) : it₀.Course it := by
  induction hrun with
  | begin => exact .refl
  | move hrun hmove hnow hjournal ih => exact ih.tail hmove
  | pass hrun htime hwaiting ih => exact ih.tail (.advance _ none)

/-- Time that passes puts everything that is due into the inbox. -/
lemma Course.waiting_advanceTo (hfresh : Fresh d options it₀) (hcourse : it₀.Course it)
    (time : Nat) : (it.advanceTo time).inbox.waiting = it.inbox.waiting ++ it.overdue time := by
  rcases Course.listening hfresh hcourse with hstopped | hlistening
  · have hsilent : it.Silent := by
      intro active hactive
      cases (Course.inert hfresh hcourse hstopped).effect.symm.trans hactive
    rw [hsilent.advanceTo, hsilent.overdue, List.append_nil]
  · exact Interpreter.waiting_advanceTo (by simp [Inbox.accepting, hlistening]) time

lemma Course.queued_eq (hfresh : Fresh d options it₀) (hcourse : it₀.Course it)
    (hwaiting : (it.advanceTo time).inbox.waiting = it.inbox.waiting ++ queued) :
    queued = it.overdue time :=
  List.append_cancel_left (hwaiting.symm.trans (Course.waiting_advanceTo hfresh hcourse time))

lemma Course.effect_stop (hfresh : Fresh d options it₀) (hcourse : it₀.Course it) :
    it.stop.1.effect = none := by
  by_cases hstopped : it.status = .stopped
  · rw [stop_of_stopped hstopped]
    exact (Course.inert hfresh hcourse hstopped).effect
  · exact (inert_stop hstopped).effect

namespace Timely

/-- A move that takes no time. -/
lemma move (h : Timely d it₀.timers entries ticks it) (hfresh : Fresh d options it₀)
    (hcourse : it₀.Course it) (hmove : it.Move it') (hnow : it'.now = it.now)
    (hjournal : it'.journal = it.journal ++ told) :
    Timely d it₀.timers (entries ++ (told.filterMap attempt?).map (it.now, ·)) ticks it' where
  attempts := by
    rw [List.map_append, h.attempts, hjournal, List.filterMap_append, List.map_map]
    exact congrArg _ (List.map_id _)
  past := by
    rw [hnow]
    refine List.forall_mem_append.mpr ⟨h.past, fun entry hentry => ?_⟩
    obtain ⟨attempt, -, rfl⟩ := List.mem_map.mp hentry
    exact Nat.le_refl _
  sources := by
    intro tick htick
    obtain ⟨start, g, handle, horigin, hstarted⟩ := h.sources tick htick
    exact ⟨start, g, handle, horigin, hstarted.append _⟩
  active := by
    intro active hactive
    rcases hmove.renews with hrenews | ⟨time, most, rfl⟩ | rfl
    · obtain ⟨told', hrenew⟩ := hrenews.renewing
      obtain rfl : told' = told := List.append_cancel_left (hrenew.journal.symm.trans hjournal)
      rw [hnow]
      rcases hrenew.effect with hsame | hnew
      · obtain ⟨start, hstarted, hschedule⟩ := h.active active (hsame ▸ hactive)
        exact ⟨start, hstarted.append _, hschedule⟩
      · obtain ⟨state, context, effect, outlet, hattempt, heffect, hstart, hdue⟩ :=
          hnew active hactive
        rw [(Course.sound hfresh hcourse).1.definition] at heffect
        rw [(Course.concluded hfresh hcourse).1] at hstart
        have hentry : (it.now, state, context, active.generation) ∈
            entries ++ (told'.filterMap attempt?).map (it.now, ·) :=
          List.mem_append_right _ (List.mem_map.mpr ⟨_, hattempt, rfl⟩)
        have hnodup := Course.nodup_numbers hfresh (hcourse.tail hmove)
        rw [hjournal, List.filterMap_append] at hnodup
        exact ⟨it.now, ⟨state, context, effect, outlet, hentry, heffect, hstart⟩,
          .begin hdue (h.ticksOf_eq_nil hnodup hattempt)⟩
    · obtain ⟨inbox, recorded, effect, hframe⟩ := it.advanceTo_frame time most
      obtain rfl : time = it.now := by rw [hframe] at hnow; exact hnow
      obtain ⟨before, hbefore⟩ := exists_effect_of_advanceTo hactive
      obtain ⟨start, hstarted, hschedule⟩ := h.active before hbefore
      obtain ⟨hnumber, hhandle, hstay⟩ := hschedule.stay hbefore hactive
      rw [hnumber, hhandle, hnow]
      exact ⟨start, hstarted.append _, hstay⟩
    · cases (Course.effect_stop hfresh hcourse).symm.trans hactive

/-- Time passes. -/
lemma pass (h : Timely d it₀.timers entries ticks it) (hfresh : Fresh d options it₀)
    (hcourse : it₀.Course it) (htime : it.now ≤ time)
    (hwaiting : (it.advanceTo time).inbox.waiting = it.inbox.waiting ++ queued) :
    Timely d it₀.timers entries (ticks ++ queued) (it.advanceTo time) := by
  obtain ⟨inbox, recorded, effect, hframe⟩ := it.advanceTo_frame time none
  have hnow : (it.advanceTo time).now = time := by rw [hframe]
  obtain rfl := Course.queued_eq hfresh hcourse hwaiting
  refine ⟨?_, ?_, List.forall_mem_append.mpr ⟨h.sources, fun tick htick => ?_⟩, ?_⟩
  · obtain ⟨told, hbeside⟩ := Beside.advanceTo it time none
    have hidle : told.filterMap attempt? = [] := List.filterMap_eq_nil_iff.mpr fun o ho =>
      attempt?_of_isLife (isLife_of_isAside (hbeside.isAside o ho))
    rw [hbeside.journal, List.filterMap_append, hidle, List.append_nil, h.attempts]
  · rw [hnow]
    exact fun entry hentry => Nat.le_trans (h.past entry hentry) htime
  · obtain ⟨active, hactive, horigin⟩ := exists_of_mem_overdue htick
    obtain ⟨start, hstarted, -⟩ := h.active active hactive
    exact ⟨start, active.generation, active.handle, horigin, hstarted⟩
  · intro active' hactive'
    obtain ⟨active, hactive⟩ := exists_effect_of_advanceTo hactive'
    obtain ⟨start, hstarted, hschedule⟩ := h.active active hactive
    obtain ⟨hnumber, hhandle, hpass⟩ := hschedule.pass hactive htime hactive'
    rw [hnumber, hhandle, hnow]
    exact ⟨start, hstarted, hpass⟩

end Timely

/-- Through every timed run effects are on schedule. -/
theorem Clocked.timely (hfresh : Fresh d options it₀) (hrun : it₀.Clocked entries ticks it) :
    Timely d it₀.timers entries ticks it := by
  induction hrun with
  | begin =>
    have hblank := hfresh.blank
    refine ⟨?_, by simp, by simp, fun active hactive => ?_⟩
    · rw [journal, hblank.recorded]
      rfl
    · cases hblank.effect.symm.trans hactive
  | move hrun hmove hnow hjournal ih => exact ih.move hfresh hrun.course hmove hnow hjournal
  | pass hrun htime hwaiting ih => exact ih.pass hfresh hrun.course htime hwaiting

/-! ## Entries -/

section

omit [Label S] [DecidableEq K] [Kinded E K]

variable {id : String} {period : C → Nat} {event : E}

/-- The entry of a state starts its interval, and does nothing else. -/
lemma launch_interval (heffect : it.definition.effect? it.state = some (interval id period event))
    (htimers : it.timers = true) (hperiod : 0 < period it.context) :
    it.launch = { it with
      generation := it.generation + 1
      effect := some ⟨it.generation + 1, intervalHandle id (period it.context) event hperiod,
        it.now + period it.context⟩
      recorded := .launched id (it.generation + 1) ::
        .launching it.state it.context (it.generation + 1) :: it.recorded } := by
  have hstart : startup (interval id period event) it =
      { result := .ok (intervalHandle id (period it.context) event hperiod) } := by
    rw [startup, htimers, start_interval _ hperiod]
  rw [launch_of_some heffect, hstart]
  rfl

/-- The entry of a state does not start its interval, which is written down and held as a warning
once, and nothing else happens. -/
lemma launch_interval_of_not
    (heffect : it.definition.effect? it.state = some (interval id period event))
    (hno : ¬ (it.timers = true ∧ 0 < period it.context)) :
    it.launch = { it with
      generation := it.generation + 1
      warnings := it.warnings ++ [intervalFailure it.timers id]
      recorded := .launchFailed (intervalFailure it.timers id) ::
        .launching it.state it.context (it.generation + 1) :: it.recorded } := by
  rw [launch_of_some heffect, startup, start_interval_of_not _ hno]
  rfl

end

/-- The interpreter has left its state and stands in another one, whose effect is not started
yet. -/
structure Arrives (it : Interpreter S C E K O) (target : S) (context : C)
    (arrived : Interpreter S C E K O) : Prop where
  definition : arrived.definition = it.definition
  timers : arrived.timers = it.timers
  now : arrived.now = it.now
  generation : arrived.generation = it.generation
  effect : arrived.effect = none
  state : arrived.state = target
  context : arrived.context = context

omit [Label S] [DecidableEq K] in
/-- A transition with a target leaves the state, even if it leads back to it. -/
lemma take_arrives {t : Transition S C E O} {target : S} (htarget : t.target = some target)
    (event : Option E) : ∃ arrived, it.take t event = arrived.launch ∧
      it.Arrives target (Action.assigned event t.actions it.context) arrived := by
  have happlied := Action.applyAll_fst (some it.outlet) event t.actions it.context
  unfold take
  simp only [htarget]
  generalize Action.applyAll (some it.outlet) event t.actions it.context = applied at happlied
  obtain ⟨inbox, recorded, hframe⟩ := performAll_frame it .external applied.2
  rw [hframe]
  obtain ⟨left, hleave, -⟩ := leave_spec { it with inbox, recorded }
  have hstays := hleave.stays
  refine ⟨_, rfl, ?_⟩
  rw [enter_eq]
  exact ⟨hstays.definition, hstays.timers, hstays.now, hleave.generation_eq, hleave.effect_eq_none,
    rfl, happlied⟩

/-! ## Intervals -/

/-- What is over does not tick any more, whatever happens and whenever. -/
lemma Clocked.spent {later : Interpreter S C E K O} (hfresh : Fresh d options it₀)
    (hcourse : it₀.Course it) (hspent : it.Spent g) (hlater : it.Clocked entries ticks later) :
    later.Spent g ∧ ticksOf g ticks = [] := by
  refine ⟨hspent.course hlater.course, ?_⟩
  induction hlater with
  | begin => rfl
  | move hrun hmove hnow hjournal ih => exact ih
  | @pass entries ticks queued here time hrun htime hwaiting ih =>
    have hqueued := Course.queued_eq hfresh (hcourse.trans hrun.course) hwaiting
    rw [ticksOf_append, ih, List.nil_append]
    refine ticksOf_eq_nil fun tick htick horigin => ?_
    obtain ⟨active, hactive, hnumber⟩ := exists_of_mem_overdue (hqueued ▸ htick)
    obtain rfl : active.generation = g := Origin.effect.inj (hnumber.symm.trans horigin)
    exact (hspent.course hrun.course).2 (by rw [hactive]; rfl)

/-- The interval with the number `g`, which was started at `start`, ticks once in each period. -/
structure KeepsTime (it : Interpreter S C E K O) (ticks : List (Envelope E))
    (start g period : Nat) (event : E) : Prop where
  begun : start ≤ it.now
  ticked : ticksOf g ticks = List.replicate ((it.now - start) / period) ⟨event, .effect g⟩
  /-- As many ticks have come as periods are over. -/
  tick_iff : ∀ k, k ≤ (ticksOf g ticks).length ↔ start + k * period ≤ it.now
  next : it.nextTick? = some (start + ((ticksOf g ticks).length + 1) * period)
  /-- When time passes, as many ticks are put at the end of the inbox as periods end. -/
  passes : ∀ time, it.now ≤ time → (it.advanceTo time).inbox.waiting = it.inbox.waiting ++
    List.replicate ((time - start) / period - (it.now - start) / period) ⟨event, .effect g⟩
  /-- It makes no difference whether time passes at once or in parts. -/
  parts : ∀ (times : List Nat) time, (∀ t ∈ times, t ≤ time) →
    (times.foldl (fun here t => here.advanceTo t) it).advanceTo time = it.advanceTo time

omit [DecidableEq S] [Label S] [DecidableEq K] [Kinded E K] in
lemma OnSchedule.keepsTime {period : Nat} {event : E} (h : OnSchedule active start it.now ticks)
    (hactive : it.effect = some active) {hperiod : 0 < period}
    (hticker : active.handle.ticker = some ⟨period, event, hperiod⟩) (hbegun : start ≤ it.now)
    (hwaiting : ∀ time, (it.advanceTo time).inbox.waiting = it.inbox.waiting ++ it.overdue time) :
    it.KeepsTime ticks start active.generation period event := by
  obtain ⟨hdue, hticks⟩ := h _ hticker
  refine ⟨hbegun, hticks, fun k => ?_, ?_, fun time htime => ?_, fun times time htimes => ?_⟩
  · rw [hticks, List.length_replicate, Nat.le_div_iff_mul_le hperiod]
    omega
  · rw [nextTick?, hactive, hticks, List.length_replicate, Option.bind_some, hticker, hdue]
    rfl
  · have hcount := Ticker.dueCount_of_schedule ⟨period, event, hperiod⟩ htime start
    rw [hwaiting, overdue_of_ticker hactive hticker, hdue, hcount, Nat.add_sub_cancel_left]
  · exact advanceTo_foldl it htimes

/-- What becomes of an interval that was attempted under the number `g` at the time `start`. -/
structure IntervalLife (d : Definition S C E K O) (timers : Bool) (ticks : List (Envelope E))
    (it : Interpreter S C E K O) (start g : Nat) (state : S) (context : C) (id : String)
    (period : C → Nat) (event : E) : Prop where
  /-- It is active until its state is left, be it for the same state, or everything ends. -/
  active_iff : timers = true ∧ 0 < period context →
    ∀ past rest, it.journal = past ++ .launching state context g :: rest →
      (it.Active g ↔ ∀ o ∈ rest, o.isDeparture = false)
  /-- As long as it is active it keeps time, with the period of its own entry. -/
  keeps : it.Active g → it.KeepsTime ticks start g (period context) event
  /-- Once it is not active it never ticks again. -/
  ends : ¬ it.Active g → ∀ entries' ticks' it', it.Clocked entries' ticks' it' →
    ¬ it'.Active g ∧ ticksOf g ticks' = []
  /-- Without timers and without a period it was not started, and it has never ticked. -/
  misfire : ¬ (timers = true ∧ 0 < period context) →
    d.answer? timers (state, context, g) = some (.error (intervalFailure timers id)) ∧
      ¬ it.Active g ∧ ticksOf g ticks = []

/-- What the entries and exits of an interpreter do to intervals. -/
structure IntervalDoors (d : Definition S C E K O) (it : Interpreter S C E K O) : Prop where
  /-- A transition with a target ends every interval, be it back to the same state. -/
  leave : ∀ t target event, t.target = some target → ∀ g ≤ it.generation,
    ¬ (it.take t event).Active g
  /-- The stop ends every interval. -/
  stop : ∀ g, ¬ it.stop.1.Active g
  /-- The interval of the target begins with a period of the context that the actions have left. -/
  restart : ∀ t target event id period e, t.target = some target →
    d.effect? target = some (interval id period e) →
    let length := period (Action.assigned event t.actions it.context)
    it.timers = true → ∀ hlength : 0 < length, (it.take t event).effect =
      some ⟨it.generation + 1, intervalHandle id length e hlength, it.now + length⟩
  /-- An entry that starts no interval leaves one failure in the journal and one among the
  warnings, and nothing else. -/
  misfire : ∀ (here : Interpreter S C E K O) id period e, here.definition = d →
    d.effect? here.state = some (interval id period e) →
    ¬ (here.timers = true ∧ 0 < period here.context) →
      here.launch = { here with
        generation := here.generation + 1
        warnings := here.warnings ++ [intervalFailure here.timers id]
        recorded := .launchFailed (intervalFailure here.timers id) ::
          .launching here.state here.context (here.generation + 1) :: here.recorded }

lemma Course.intervalDoors (hfresh : Fresh d options it₀) (hcourse : it₀.Course it) :
    IntervalDoors d it where
  leave t target event htarget g hle := by
    obtain ⟨arrived, htake, harrives⟩ := it.take_arrives htarget event
    have hspent : arrived.Spent g := by
      refine ⟨harrives.generation ▸ hle, ?_⟩
      rw [harrives.effect]
      nofun
    obtain ⟨begun, hlaunch, -⟩ := launch_spec arrived
    rw [htake]
    exact (hspent.launching hlaunch).2
  stop g := by
    rw [Active, Course.effect_stop hfresh hcourse]
    nofun
  restart := by
    intro t target event id period e htarget heffect length htimers hperiod
    obtain ⟨arrived, htake, harrives⟩ := it.take_arrives htarget event
    have hdefinition := harrives.definition.trans (Course.sound hfresh hcourse).1.definition
    rw [← harrives.state, ← hdefinition] at heffect
    have hlaunch := launch_interval heffect (harrives.timers.trans htimers)
      (by rw [harrives.context]; exact hperiod)
    rw [htake, hlaunch]
    simp only [harrives.context, harrives.generation, harrives.now]
    rfl
  misfire here id period e hdefinition heffect hno := by
    subst hdefinition
    exact launch_interval_of_not heffect hno

/-- A handle that an interval gave back. -/
lemma Timely.of_started {timers : Bool} {state : S} {context : C} {id : String}
    {period : C → Nat} {event : E} {handle : Handle E O} {start' : Nat}
    (h : Timely d timers entries ticks it) (hfresh : Fresh d options it₀)
    (hcourse : it₀.Course it) (hentry : (start, state, context, g) ∈ entries)
    (heffect : d.effect? state = some (interval id period event))
    (hstarted : Started d timers entries start' g handle) :
    start' = start ∧ timers = true ∧
      ∃ hperiod, handle = intervalHandle id (period context) event hperiod := by
  obtain ⟨state', context', effect, outlet, hentry', heffect', hstart⟩ := hstarted
  have hnodup := Course.nodup_numbers hfresh hcourse
  rw [← h.attempts, List.map_map] at hnodup
  obtain ⟨rfl, rfl, rfl, -⟩ : start' = start ∧ state' = state ∧ context' = context ∧ g = g := by
    simpa using List.inj_on_of_nodup_map hnodup hentry' hentry rfl
  obtain rfl := Option.some.inj (heffect.symm.trans heffect')
  by_cases hgood : timers = true ∧ 0 < period context'
  · obtain ⟨rfl, hperiod⟩ := hgood
    rw [start_interval outlet hperiod] at hstart
    exact ⟨rfl, rfl, hperiod, (Except.ok.inj hstart).symm⟩
  · rw [start_interval_of_not outlet hgood] at hstart
    cases hstart

/-- **Intervals keep time.**  Take any timed run, in any order of moves and of times that pass.  Each
entry of a state is an attempt to start its effect, and it ends as the factory says.  Where there are
timers and the period of the entry is not zero, an interval is active until its state is left, for
another state or for the same one, or everything ends.  So long it ticks once at the end of each
period since its entry, in whatever parts time passes, and after that it never ticks again; an entry
that follows begins with the period of its own context.  Where there are no timers or the period is
zero, nothing ticks, and the entry leaves one failure. -/
theorem interval_keeps_time (hfresh : Fresh d options it₀) (hrun : it₀.Clocked entries ticks it) :
    entries.map Prod.snd = it.journal.filterMap attempt? ∧
    Concluded d it₀.timers it.journal ∧
    (∀ start state context g id period event, (start, state, context, g) ∈ entries →
      d.effect? state = some (interval id period event) →
        IntervalLife d it₀.timers ticks it start g state context id period event) ∧
    IntervalDoors d it := by
  have hcourse := hrun.course
  have htimely := hrun.timely hfresh
  refine ⟨htimely.attempts, (Course.concluded hfresh hcourse).2, ?_,
    Course.intervalDoors hfresh hcourse⟩
  intro start state context g id period event hentry heffect
  refine ⟨fun hgood past rest hjournal => ?_, fun hactive => ?_, fun hno => ?_, fun hbad => ?_⟩
  · refine Course.active_iff hfresh hcourse hjournal ?_
    rw [Definition.answer?, heffect, hgood.1, Option.map_some, start_interval _ hgood.2]
    rfl
  · obtain ⟨active, heffect', rfl⟩ := active_iff_exists.mp hactive
    obtain ⟨start', hstarted, hschedule⟩ := htimely.active active heffect'
    obtain ⟨rfl, -, hperiod, hhandle⟩ := htimely.of_started hfresh hcourse hentry heffect hstarted
    exact hschedule.keepsTime heffect' (by rw [hhandle]; rfl) (htimely.past _ hentry)
      (Course.waiting_advanceTo hfresh hcourse)
  · have hle : g ≤ it.generation := by
      have hnumber : g ∈ (it.journal.filterMap attempt?).map (·.2.2) := by
        rw [← htimely.attempts]
        exact List.mem_map.mpr ⟨_, List.mem_map.mpr ⟨_, hentry, rfl⟩, rfl⟩
      rw [Course.numbers hfresh hcourse, List.mem_range'_1] at hnumber
      omega
    intro entries' ticks' it' hlater
    obtain ⟨hspent, hnone⟩ := Clocked.spent hfresh hcourse ⟨hle, hno⟩ hlater
    exact ⟨hspent.2, hnone⟩
  · refine ⟨?_, fun hactive => ?_, ticksOf_eq_nil fun tick htick horigin => ?_⟩
    · rw [Definition.answer?, heffect, Option.map_some, start_interval_of_not _ hbad]
      rfl
    · obtain ⟨active, heffect', rfl⟩ := active_iff_exists.mp hactive
      obtain ⟨start', hstarted, -⟩ := htimely.active active heffect'
      obtain ⟨-, htimers, hperiod, -⟩ := htimely.of_started hfresh hcourse hentry heffect hstarted
      exact hbad ⟨htimers, hperiod⟩
    · obtain ⟨start', g', handle, horigin', hstarted⟩ := htimely.sources tick htick
      obtain rfl : g' = g := Origin.effect.inj (horigin'.symm.trans horigin)
      obtain ⟨-, htimers, hperiod, -⟩ := htimely.of_started hfresh hcourse hentry heffect hstarted
      exact hbad ⟨htimers, hperiod⟩

end Interpreter

namespace Lamp

open Interpreter

/-- A chime that strikes after as many milliseconds as were counted when its state was entered. -/
def chime : Effect Nat Event Unit := interval "chime" (fun count => count * 1000000) .beat

/-- A clock that chimes while it is on, and begins anew whenever it is pressed. -/
def clock : Definition State Nat Event Event Unit :=
  { lamp with
    initial := .on
    context := 2
    nodes := [(.on, { on := ⟨[(.press, [moving (some .on)])]⟩, effect := chime })] }

/-- The clock that was started, and is pressed after a millisecond. -/
def wound : Interpreter State Nat Event Event Unit :=
  ((Interpreter.new clock).booted.advanceTo 1000000).enqueue .external .press

/-- The clock that has come to the press, almost six milliseconds later. -/
def rewound : Interpreter State Nat Event Event Unit :=
  (wound.step ⟨.press, .external⟩ {}).1.advanceTo 6999999

lemma clock_fresh : Interpreter.Fresh clock {} (Interpreter.new clock) := .new 0 true

/-- The clock has not chimed before it was pressed, and once since. -/
lemma rewound_clocked : (Interpreter.new clock).Clocked [(0, .on, 2, 1), (1000000, .on, 3, 2)]
    [⟨.beat, .effect 2⟩] rewound := by
  have hstatus : (Interpreter.new clock).status = .notStarted := rfl
  have hbooted := Clocked.begin.move (.boot hstatus) rfl rfl
  have hpassed := hbooted.pass (show _ ≤ 1000000 by decide) rfl
  have hwound := hpassed.move (.post .external Event.press) rfl rfl
  have hpressed := hwound.move (.turn rfl rfl) rfl rfl
  exact hpressed.pass (show _ ≤ 6999999 by decide) rfl

end Lamp

open Lamp in
/-- The press ends the interval of two milliseconds and begins one of three. -/
theorem Interpreter.interval_keeps_time_lamp :
    ¬ rewound.Active 1 ∧ (∀ entries ticks it, rewound.Clocked entries ticks it →
      ¬ it.Active 1 ∧ ticksOf 1 ticks = []) ∧
      rewound.Active 2 ∧ rewound.KeepsTime [⟨.beat, .effect 2⟩] 1000000 2 3000000 .beat := by
  obtain ⟨-, -, hlife, -⟩ := interval_keeps_time clock_fresh rewound_clocked
  have hfirst := hlife 0 .on 2 1 "chime" (fun count => count * 1000000) .beat (by simp) rfl
  have hsecond := hlife 1000000 .on 3 2 "chime" (fun count => count * 1000000) .beat (by simp) rfl
  have hactive : rewound.Active 2 := rfl
  have hgone : ¬ rewound.Active 1 := fun h => absurd (hactive.symm.trans h) (by decide)
  exact ⟨hgone, hfirst.ends hgone, hactive, hsecond.keeps hactive⟩

end Macrostep
