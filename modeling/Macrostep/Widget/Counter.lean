/-
# A bounded counter

A machine with one state, whose context is a number that is kept between 0 and 10.  Its guards and
actions are registered by name.
-/
import Macrostep.Describe
import Macrostep.Draft.Build
import Macrostep.Stored

namespace Macrostep.Widget.Counter

/-- The only state. -/
inductive State
  | active
deriving DecidableEq

/-- What is done to a counter. -/
inductive Event
  | increment
  | decrement
deriving DecidableEq

/-- The number that is shown. -/
structure Context where
  /-- The number. -/
  count : UInt32
deriving DecidableEq

/-- The name of a state. -/
def State.name : State → String
  | active => "Active"

/-- The name of an event. -/
def Event.name : Event → String
  | increment => "Increment"
  | decrement => "Decrement"

instance : Label State where
  name := State.name

instance : Kinded Event Event where
  kind := id
  kindName := Event.name

instance : Stored State := .ofNames [.active] State.name

instance : Describe State := ⟨State.name⟩

open Stored in
instance : Stored Context where
  toJson c := .record [("count", toJson c.count)]
  ofJson? j := do
    let [count] ← j.fields? ["count"] | none
    some ⟨← required count⟩
  write c := write c.count
  read os := (read os).map fun (count, rest) => (⟨count⟩, rest)

instance : Describe Context where
  describe c := describeRecord "Counter" [("count", describe c.count)]

/-- The event that a JSON value spells. -/
def Event.ofJson? : Json → Option Event
  | .string (some "Increment") => some .increment
  | .string (some "Decrement") => some .decrement
  | _ => none

/-- The number above which nothing is added. -/
def greatest : UInt32 := 10

variable {O : Type}

/-- The machine. -/
def draft : Draft State Context Event Event O :=
  ({ initial := .active, context := ⟨0⟩ } : Draft State Context Event Event O)
    |>.withId "counter"
    |>.guard "aboveZero" (fun c _ => 0 < c.count)
    |>.guard "belowMax" (fun c _ => c.count < greatest)
    |>.action "increment" (.assign fun c _ => ⟨c.count + 1⟩)
    |>.action "decrement" (.assign fun c _ => ⟨c.count - 1⟩)
    |>.state .active fun s => s
      |>.onKind .increment
        (TransitionDraft.withActionNamed (.withGuardNamed {} "belowMax") "increment")
      |>.onKind .decrement
        (TransitionDraft.withActionNamed (.withGuardNamed {} "aboveZero") "decrement")

end Macrostep.Widget.Counter
