/-
# Transcripts

A transcript is made by using an interpreter whose observers note lines of text.  The lines that are
printed between the calls and the lines that the observers note are kept in one list, in order.
-/
import Macrostep.Draft.Build
import Macrostep.Interpreter.Run

namespace Macrostep.Demo

/-- An interpreter in use, and the lines that were written so far. -/
structure Transcript (S C E K : Type) where
  /-- The interpreter. -/
  it : Interpreter S C E K String
  /-- The lines. -/
  lines : List String := []

namespace Transcript

variable {S C E K : Type} [DecidableEq S] [Label S] [DecidableEq K] [Kinded E K]

/-- The most events that one call may resolve. -/
def budget : Nat := 1000

/-- Writes a line. -/
def print (t : Transcript S C E K) (line : String) : Transcript S C E K :=
  { t with lines := t.lines ++ [line] }

/-- Writes the lines that were noted during a call. -/
def call (t : Transcript S C E K)
    (f : Interpreter S C E K String → Interpreter S C E K String) : Transcript S C E K :=
  let after := f t.it
  let noted := after.journal.filterMap fun
    | .noted line => some line
    | _ => none
  ⟨after.withoutJournal, t.lines ++ noted⟩

/-- Writes a line for every snapshot. -/
def subscribe (t : Transcript S C E K) (render : Snapshot S C → String) : Transcript S C E K :=
  t.call fun it => (it.subscribe fun _ snapshot => [.note (render snapshot)]).1

/-- Starts the interpreter. -/
def start (t : Transcript S C E K) : Transcript S C E K := t.call fun it => (it.start budget).1

/-- Sends an event. -/
def send (t : Transcript S C E K) (event : E) : Transcript S C E K :=
  t.call fun it => (it.send budget event).1

/-- The lines of a use of the machine that a draft describes. -/
def ofDraft (draft : Draft S C E K String) (title : String)
    (use : Transcript S C E K → Transcript S C E K) : List String :=
  match draft.build with
  | .ok definition =>
    let opened : Transcript S C E K := ⟨.new definition, ["=== " ++ title ++ " ===", ""]⟩
    (use opened).lines
  | .error faults => [Fault.summary faults]

end Transcript

end Macrostep.Demo
