/-
# Periodic effects

An effect that sends one event again and again, at a distance that is computed once from the context
with which the state is entered.  The first event comes one whole distance after the start.  What
sends is a loop, which goes from deadline to deadline (`Ticker.run`).
-/
import Macrostep.Effect.Basic

namespace Macrostep

/-- The effect that sends `event` every `period` nanoseconds.  It fails without timers, and fails
for a period of zero. -/
def interval {C E O : Type} (id : String) (period : C → Nat) (event : E) : Effect C E O where
  id
  launch surroundings context :=
    if !surroundings.timers then { result := .error (.noRuntime id) }
    else if hzero : period context = 0 then
      { result := .error (.startFailed id "interval period must be non-zero") }
    else
      let ticker : Ticker E := ⟨period context, event, Nat.pos_of_ne_zero hzero⟩
      { result := .ok { cleanup := some fun _ => {}, ticker := some ticker } }

namespace Ticker

variable {E σ τ : Type}

/-- The loop of a ticker up to a time: it waits for its deadline, sends its event, and the next
deadline is one period later.  It makes a number of turns at most, and tells when the next event is
due. -/
def run (ticker : Ticker E) (send : σ → E → σ) (time : Nat) : Nat → Nat → σ → σ × Nat
  | 0, due, here => (here, due)
  | turns + 1, due, here =>
    if due ≤ time then ticker.run send time turns (due + ticker.period) (send here ticker.event)
    else (here, due)

variable (ticker : Ticker E) (send : σ → E → σ) (time turns due : Nat)

/-- The loop sends its event some number of times. -/
theorem exists_run (here : σ) : ∃ count due', ticker.run send time turns due here =
    ((List.replicate count ticker.event).foldl send here, due') := by
  induction turns generalizing due here with
  | zero => exact ⟨0, due, rfl⟩
  | succ turns ih =>
    rw [run]
    split
    · obtain ⟨count, due', hrun⟩ := ih (due + ticker.period) (send here ticker.event)
      exact ⟨count + 1, due', hrun⟩
    · exact ⟨0, due, rfl⟩

/-- The loop only looks at its deadlines, so it goes in the same way wherever it sends to. -/
theorem run_map (send' : τ → E → τ) (f : σ → τ)
    (hf : ∀ here event, send' (f here) event = f (send here event)) (here : σ) :
    ticker.run send' time turns due (f here) =
      (f (ticker.run send time turns due here).1, (ticker.run send time turns due here).2) := by
  induction turns generalizing due here with
  | zero => rfl
  | succ turns ih =>
    rw [run, run]
    split
    · rw [hf, ih]
    · rfl

end Ticker

end Macrostep
