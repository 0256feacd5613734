/-
# A flight booker

A form that can be submitted once its dates are valid: a start date for a one-way trip, and a later
return date beside it for a round trip.  Dates are texts and are compared as texts, character by
character.
-/
import Macrostep.Describe
import Macrostep.Draft.Build
import Macrostep.Stored

namespace Macrostep.Widget.Flight

/-- Where a booking is. -/
inductive State
  | editing
  | submitted
deriving DecidableEq

/-- Whether one flies back. -/
inductive Trip
  | oneWay
  | roundTrip
deriving DecidableEq

/-- What is done to the form. -/
inductive Event
  /-- Chooses the kind of trip, by a text. -/
  | setTrip (choice : String)
  /-- Sets the start date. -/
  | startDate (date : String)
  /-- Sets the return date. -/
  | returnDate (date : String)
  /-- Submits the form. -/
  | submit
deriving DecidableEq

/-- The kinds of events. -/
inductive Kind
  | setTrip
  | startDate
  | returnDate
  | submit
deriving DecidableEq

/-- What is filled in. -/
structure Context where
  /-- The kind of trip. -/
  trip : Trip
  /-- The start date, if there is one. -/
  startDate : Option String
  /-- The return date, if there is one. -/
  returnDate : Option String
deriving DecidableEq

/-- The name of a state. -/
def State.name : State → String
  | editing => "Editing"
  | submitted => "Submitted"

/-- The name of a kind of trip. -/
def Trip.name : Trip → String
  | oneWay => "OneWay"
  | roundTrip => "RoundTrip"

/-- The text that chooses a kind of trip. -/
def Trip.choice : Trip → String
  | oneWay => "oneWay"
  | roundTrip => "roundTrip"

/-- The kind of trip that a text chooses. -/
def Trip.ofChoice? (choice : String) : Option Trip :=
  [oneWay, roundTrip].find? fun trip => trip.choice = choice

/-- The name of a kind of event. -/
def Kind.name : Kind → String
  | setTrip => "SetTrip"
  | startDate => "StartDate"
  | returnDate => "ReturnDate"
  | submit => "Submit"

/-- The kind of an event. -/
def Event.kind : Event → Kind
  | setTrip _ => .setTrip
  | startDate _ => .startDate
  | returnDate _ => .returnDate
  | submit => .submit

instance : Label State where
  name := State.name
  isFinal state := state = .submitted

instance : Kinded Event Kind where
  kind := Event.kind
  kindName := Kind.name

instance : Stored State := .ofNames [.editing, .submitted] State.name
instance : Stored Trip := .ofNames [.oneWay, .roundTrip] Trip.name

instance : Describe State := ⟨State.name⟩
instance : Describe Trip := ⟨Trip.name⟩

open Stored in
instance : Stored Context where
  toJson c := .record [("trip", toJson c.trip), ("start_date", toJson c.startDate),
    ("return_date", toJson c.returnDate)]
  ofJson? j := do
    let [trip, startDate, returnDate] ← j.fields? ["trip", "start_date", "return_date"] | none
    let trip ← required trip
    let startDate ← Json.maybe? ofJson? startDate
    let returnDate ← Json.maybe? ofJson? returnDate
    some { trip, startDate, returnDate }
  write c := write c.trip ++ write c.startDate ++ write c.returnDate
  read os := do
    let (trip, os) ← read os
    let (startDate, os) ← read os
    let (returnDate, os) ← read os
    some ({ trip, startDate, returnDate }, os)

instance : Describe Context where
  describe c := describeRecord "Flight" [("trip", describe c.trip),
    ("start_date", describe c.startDate), ("return_date", describe c.returnDate)]

/-- The event that a JSON value spells. -/
def Event.ofJson? : Json → Option Event
  | .string (some "Submit") => some .submit
  | .array [.string (some "SetTrip"), .string (some choice)] => some (.setTrip choice)
  | .array [.string (some "StartDate"), .string (some date)] => some (.startDate date)
  | .array [.string (some "ReturnDate"), .string (some date)] => some (.returnDate date)
  | _ => none

namespace Context

/-- Whether the form can be submitted.  An empty start date counts as missing. -/
def isValid (c : Context) : Bool :=
  match c.startDate with
  | none => false
  | some start =>
    start ≠ "" &&
      match c.trip with
      | .oneWay => true
      | .roundTrip => c.returnDate.any fun back => start < back

/-- Fills in the start date. -/
def setStartDate (c : Context) : Option Event → Context
  | some (.startDate date) => { c with startDate := some date }
  | _ => c

/-- Fills in the return date. -/
def setReturnDate (c : Context) : Option Event → Context
  | some (.returnDate date) => { c with returnDate := some date }
  | _ => c

/-- Fills in the kind of trip. -/
def setTrip (c : Context) : Option Event → Context
  | some (.setTrip choice) => { c with trip := (Trip.ofChoice? choice).getD c.trip }
  | _ => c

end Context

/-- Whether an event chooses a kind of trip that there is. -/
def choosesTrip : Option Event → Bool
  | some (.setTrip choice) => (Trip.ofChoice? choice).isSome
  | _ => false

variable {O : Type}

/-- The machine. -/
def draft : Draft State Context Event Kind O :=
  ({ initial := .editing, context := ⟨.oneWay, none, none⟩ } : Draft State Context Event Kind O)
    |>.withId "flight"
    |>.guard "isRoundTrip" (fun c _ => c.trip = .roundTrip)
    |>.guard "isValidType" (fun _ e => choosesTrip e)
    |>.guard "isValidInput" (fun c _ => c.isValid)
    |>.action "setStartDate" (.assign Context.setStartDate)
    |>.action "setReturnDate" (.assign Context.setReturnDate)
    |>.action "setTrip" (.assign Context.setTrip)
    |>.state .editing (fun s => s
      |>.onKind .startDate (TransitionDraft.withActionNamed {} "setStartDate")
      |>.onKind .returnDate
        (TransitionDraft.withActionNamed (.withGuardNamed {} "isRoundTrip") "setReturnDate")
      |>.onKind .setTrip
        (TransitionDraft.withActionNamed (.withGuardNamed {} "isValidType") "setTrip")
      |>.onKind .submit (TransitionDraft.withGuardNamed (.goto .submitted) "isValidInput"))
    |>.finalState .submitted

end Macrostep.Widget.Flight
