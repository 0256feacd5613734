/-
# The arithmetic of the counter

The counter adds to a number of 32 bits and subtracts from it, and nothing but its guards keeps it
from wrapping around.  They do, wherever it begins: an increment is taken below ten alone and a
decrement above zero alone, so the numbers of a dialogue are those of a count over the natural
numbers (`Widget.Counter.counted`), also if the counter went on from a checkpoint that holds more
than ten.
-/
import Macrostep.Proofs.Dialogue
import Macrostep.Widget.Counter

namespace Macrostep

open Occurrence

namespace Widget.Counter

/-- What an event makes of a number. -/
def counted (n : Nat) : Event → Nat
  | .increment => if n < 10 then n + 1 else n
  | .decrement => if 0 < n then n - 1 else n

/-- What an event makes of a number that it changes. -/
def changed? (n : Nat) (event : Event) : Option Nat :=
  if counted n event = n then none else some (counted n event)

/-- What an event makes of a number that is kept between zero and ten. -/
def clamped (n : Nat) : Event → Nat
  | .increment => min (n + 1) 10
  | .decrement => n - 1

lemma changed?_increment (n : Nat) :
    changed? n .increment = if n < 10 then some (n + 1) else none := by
  by_cases h : n < 10 <;> simp [changed?, counted, h]

lemma changed?_decrement (n : Nat) :
    changed? n .decrement = if 0 < n then some (n - 1) else none := by
  by_cases h : 0 < n
  · have hne : n - 1 ≠ n := by omega
    simp [changed?, counted, h, hne]
  · simp [changed?, counted, h]

lemma counted_le (n : Nat) (event : Event) : counted n event ≤ max n 10 := by
  cases event with
  | increment =>
    simp only [counted]
    split <;> omega
  | decrement =>
    simp only [counted]
    split <;> omega

/-- Up to ten the number is kept in its bounds. -/
lemma counted_eq_clamped {n : Nat} (h : n ≤ 10) (event : Event) :
    counted n event = clamped n event ∧ clamped n event ≤ 10 := by
  cases event with
  | increment =>
    simp only [counted, clamped]
    split <;> omega
  | decrement =>
    simp only [counted, clamped]
    split <;> omega

lemma follow_changed? (n : Nat) (events : List Event) :
    follow changed? n events = events.foldl counted n := by
  have hchanged (n : Nat) (event : Event) : (changed? n event).getD n = counted n event := by
    unfold changed?
    split
    · rename_i hsame
      exact hsame.symm
    · rfl
  simp only [follow, hchanged]

lemma foldl_counted_le (n : Nat) (events : List Event) : events.foldl counted n ≤ max n 10 := by
  induction events generalizing n with
  | nil => exact Nat.le_max_left n 10
  | cons event events ih =>
    have hfirst := counted_le n event
    have hrest := ih (counted n event)
    rw [List.foldl_cons]
    omega

lemma foldl_counted_eq_clamped {n : Nat} (h : n ≤ 10) (events : List Event) :
    events.foldl counted n = events.foldl clamped n := by
  induction events generalizing n with
  | nil => rfl
  | cons event events ih =>
    obtain ⟨heq, hle⟩ := counted_eq_clamped h event
    rw [List.foldl_cons, List.foldl_cons, heq, ih hle]

/-! ## The machine -/

variable {O : Type}

/-- The transition of an event. -/
def rule : Event → Transition State Context Event O
  | .increment =>
    { guard := some fun c _ => c.count < greatest
      actions := [.assign fun c _ => ⟨c.count + 1⟩]
      target := none }
  | .decrement =>
    { guard := some fun c _ => 0 < c.count
      actions := [.assign fun c _ => ⟨c.count - 1⟩]
      target := none }

lemma select_eq (state : State) (c : Context) (event : Event) :
    (draft (O := O)).compile.select state c event =
      [rule event].find? (·.isEnabled c (some event)) := by
  cases state
  cases event <;> rfl

lemma plain : (draft (O := O)).compile.Plain := by
  refine .of_assigning (by rintro ⟨⟩; rfl) (by rintro ⟨⟩ context; rfl) ?_
  intro state context event t hselect run hrun
  rw [select_eq] at hselect
  obtain rfl := List.mem_singleton.mp (List.mem_of_find?_eq_some hselect)
  cases event <;> cases List.mem_singleton.mp hrun

/-- The guards let through what changes the number, and what they let through does not wrap. -/
lemma rule_exact (c : Context) (event : Event) :
    ((rule (O := O) event).isEnabled c (some event) = true ↔
        counted c.count.toNat event ≠ c.count.toNat) ∧
      ((rule (O := O) event).isEnabled c (some event) = true →
        (Action.assigned (some event) (rule (O := O) event).actions c).count.toNat =
          counted c.count.toNat event) := by
  obtain ⟨count⟩ := c
  cases event with
  | increment =>
    have henabled : (rule (O := O) .increment).isEnabled ⟨count⟩ (some .increment) = true ↔
        count.toNat < 10 := by
      simp [rule, Transition.isEnabled, greatest, UInt32.lt_iff_toNat_lt]
    rw [henabled]
    refine ⟨?_, fun h => ?_⟩
    · simp only [counted]
      split <;> omega
    · have hsum : (count + 1).toNat = count.toNat + 1 := by
        rw [UInt32.toNat_add, UInt32.toNat_one, Nat.mod_eq_of_lt (by omega)]
      rw [counted, if_pos h]
      exact hsum
  | decrement =>
    have henabled : (rule (O := O) .decrement).isEnabled ⟨count⟩ (some .decrement) = true ↔
        0 < count.toNat := by
      simp [rule, Transition.isEnabled, UInt32.lt_iff_toNat_lt]
    rw [henabled]
    refine ⟨?_, fun h => ?_⟩
    · simp only [counted]
      split <;> omega
    · have hone : (1 : UInt32) ≤ count := UInt32.le_iff_toNat_le.mpr h
      rw [counted, if_pos h]
      exact UInt32.toNat_sub_of_le count 1 hone

/-- What the machine does to its number is what is done to the natural number. -/
lemma transition_count (s : Snapshot State Context) (event : Event) :
    ((draft (O := O)).compile.transition s event).map (·.context.count.toNat) =
      changed? s.context.count.toNat event := by
  obtain ⟨henabled, hexact⟩ := rule_exact (O := O) s.context event
  rw [Definition.transition, select_eq, List.find?_singleton, changed?]
  by_cases h : (rule (O := O) event).isEnabled s.context (some event) = true
  · rw [if_pos h, if_neg (henabled.mp h), ← hexact h]
    simp only [Option.map_some, Definition.apply, Action.applyAll_fst]
  · rw [if_neg h, if_pos (Decidable.not_not.mp (mt henabled.mpr h))]
    rfl

/-- Every number can be put away, and a counter goes on from it. -/
lemma exists_resumed (options : Options) (count : UInt32) :
    ∃ (cp : Checkpoint State Context) (it₀ : Interpreter State Context Event Event O),
      Interpreter.resume (draft (O := O)).compile cp options = .ok it₀ ∧
        it₀.context.count = count := by
  let d := (draft (O := O)).compile
  let cp : Checkpoint State Context :=
    { Interpreter.checkpoint (Interpreter.new d) "counter" with context := ⟨count⟩ }
  have hvalid : cp.validate d = .ok () := rfl
  exact ⟨cp, _, Interpreter.resume_of_validate hvalid options, rfl⟩

open Interpreter in
/-- **The counter counts.**  No transition of the counter wraps around, whatever number it finds.
A new counter begins with zero, and from a checkpoint it goes on with any number of 32 bits.  In
every dialogue from there on all calls end well, the number is the one that the natural numbers
give, and the position is published for the start and once for each event that changes the number.
The number never exceeds the greater one of ten and the first; and if the first one is not above
ten, then the counter is the one that is kept between zero and ten. -/
theorem counter_counts {d : Definition State Context Event Event O} (hbuild : draft.build = .ok d)
    (options : Options) :
    (∀ s s' : Snapshot State Context,
      (d.transition s .increment = some s' →
        s'.context.count.toNat = s.context.count.toNat + 1) ∧
      (d.transition s .decrement = some s' →
        s'.context.count.toNat + 1 = s.context.count.toNat)) ∧
    (Interpreter.new d options).context.count = 0 ∧
    (∀ count : UInt32, ∃ cp it₀, resume d cp options = .ok it₀ ∧ it₀.context.count = count) ∧
    ∀ (it₀ it : Interpreter State Context Event Event O) (events : List Event)
      (results : List (Except InterpreterError Unit)),
      Fresh d options it₀ → it₀.Dialogue events results it →
      let n := it₀.context.count.toNat
      (∀ result ∈ results, result = .ok ()) ∧
        it.context.count.toNat = events.foldl counted n ∧
        (it.journal.filterMap emitted?).map (·.context.count.toNat) = n :: trail changed? n events ∧
        it.context.count.toNat ≤ max n 10 ∧
        (n ≤ 10 → it.context.count.toNat = events.foldl clamped n) := by
  obtain rfl := Except.ok.inj hbuild
  refine ⟨fun s s' => ⟨fun hnext => ?_, fun hnext => ?_⟩, rfl, exists_resumed options, ?_⟩
  · have hcount := transition_count (O := O) s .increment
    rw [hnext, Option.map_some, changed?_increment] at hcount
    obtain ⟨-, heq⟩ := Option.ite_none_right_eq_some.mp hcount.symm
    exact (Option.some.inj heq).symm
  · have hcount := transition_count (O := O) s .decrement
    rw [hnext, Option.map_some, changed?_decrement] at hcount
    obtain ⟨hpos, heq⟩ := Option.ite_none_right_eq_some.mp hcount.symm
    rw [← Option.some.inj heq]
    exact Nat.sub_add_cancel hpos
  · intro it₀ it events results hfresh hdialogue n
    obtain ⟨hresults, -, -, hend, hemitted⟩ := hdialogue.course plain hfresh
    have hcount : it.context.count.toNat = events.foldl counted n := by
      have hfollow := follow_map (transition_count (O := O)) it₀.snapshot events
      rw [← hend, follow_changed?] at hfollow
      exact hfollow
    refine ⟨hresults, hcount, ?_, ?_, fun hle => ?_⟩
    · rw [hemitted, List.map_cons, trail_map transition_count]
      rfl
    · rw [hcount]
      exact foldl_counted_le n events
    · rw [hcount, foldl_counted_eq_clamped hle]

open Interpreter in
/-- A counter that goes on from the greatest number of 32 bits: it does not count up, it counts down
once, and it does not count up again. -/
theorem counter_counts_greatest :
    ∃ (it₀ it : Interpreter State Context Event Event Empty)
      (results : List (Except InterpreterError Unit)),
      it₀.Dialogue [.increment, .decrement, .increment] results it ∧
        it.context.count.toNat = 4294967294 ∧
        (it.journal.filterMap emitted?).map (·.context.count.toNat) =
          [4294967295, 4294967294] := by
  obtain ⟨-, -, hresumable, hdialogues⟩ := counter_counts (O := Empty) rfl {}
  obtain ⟨cp, it₀, hresume, hcount⟩ := hresumable 4294967295
  let placed : Interpreter State Context Event Event Empty := { it₀ with now := 0, timers := true }
  obtain ⟨results, it, hdialogue⟩ :=
    placed.exists_dialogue [.increment, .decrement, .increment]
  obtain ⟨-, hend, hemitted, -⟩ :=
    hdialogues placed it _ results (.resumed 0 true hresume) hdialogue
  have hbegin : placed.context.count.toNat = 4294967295 := congrArg UInt32.toNat hcount
  rw [hbegin] at hend hemitted
  exact ⟨placed, it, results, hdialogue, hend, hemitted⟩

end Widget.Counter

end Macrostep
