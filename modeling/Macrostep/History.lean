/-
# Histories

The states that a machine has entered, in order.  Transitions that only change the context leave no
entry.  A history may have a limit, beyond which the oldest entries are dropped.
-/
import Macrostep.Time.Timestamp

namespace Macrostep

open Time

/-- One state that was entered. -/
structure Entry (S : Type) where
  /-- The state that was left. -/
  source : S
  /-- The state that was entered. -/
  target : S
  /-- The name of the kind of the event; `none` for an eventless transition. -/
  event : Option String
  /-- When it happened. -/
  time : Timestamp
deriving DecidableEq

/-- Whether no event led to the entry. -/
def Entry.isEventless {S : Type} (entry : Entry S) : Bool := entry.event.isNone

/-- The entries of a machine, the oldest first. -/
structure History (S : Type) where
  /-- The entries. -/
  entries : Array (Entry S) := #[]
deriving DecidableEq

namespace History

variable {S : Type}

/-- The entries, the oldest first. -/
def toList (history : History S) : List (Entry S) := history.entries.toList

/-- The history with one more entry. -/
def record (history : History S) (entry : Entry S) : History S :=
  ⟨history.entries.push entry⟩

/-- The history with one more entry, cut to its last `limit` entries. -/
def push (history : History S) (entry : Entry S) (limit : Option Nat) : History S :=
  let entries := history.entries.push entry
  match limit with
  | some n => if entries.size ≤ n then ⟨entries⟩ else ⟨entries.extract (entries.size - n)⟩
  | none => ⟨entries⟩

/-- The states on the way: where the first entry started, then what each one entered. -/
def path (history : History S) : List S :=
  (history.toList.take 1).map Entry.source ++ history.toList.map Entry.target

/-- The seconds and nanoseconds from the first entry to the last; `none` without entries, and if
the last one lies before the first. -/
def duration? (history : History S) : Option (Nat × Nat) := do
  let first ← history.toList.head?
  let last ← history.toList.getLast?
  first.time.elapsed? last.time

/-- The number of entries. -/
def length (history : History S) : Nat := history.entries.size

@[simp] theorem toList_record (history : History S) (entry : Entry S) :
    (history.record entry).toList = history.toList ++ [entry] := by
  simp [toList, record]

/-- A limit keeps the last entries. -/
theorem toList_push_some (history : History S) (entry : Entry S) (n : Nat) :
    (history.push entry (some n)).toList =
      (history.toList ++ [entry]).drop (history.length + 1 - n) := by
  simp only [toList, push, length]
  split
  · rename_i h
    simp only [Array.size_push] at h
    simp [Nat.sub_eq_zero_of_le h]
  · simp [List.take_of_length_le]

end History

end Macrostep
