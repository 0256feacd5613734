/-
# The counter at work

One step below zero and two above ten are refused.
-/
import Macrostep.Demo.Transcript
import Macrostep.Widget.Counter

namespace Macrostep.Demo

open Widget.Counter

/-- A number, filled up with blanks on the left to two places. -/
def twoPlaces (n : Nat) : String := if n < 10 then s!" {n}" else s!"{n}"

/-- The transcript of a counter. -/
def counter : List String :=
  Transcript.ofDraft Widget.Counter.draft "Bounded Counter" fun t =>
    let t := t.subscribe fun s => "  [ - ] " ++ twoPlaces s.context.count.toNat ++ " [ + ]"
    let t := t.start
    let t := (t.print "").print "Decrement at zero is blocked by the guard:"
    let t := t.send .decrement
    let t := (t.print "").print "Twelve increments, the last two are blocked:"
    let t := (List.replicate 12 Event.increment).foldl Transcript.send t
    (t.print "").print s!"Final count: {t.it.context.count}"

end Macrostep.Demo
