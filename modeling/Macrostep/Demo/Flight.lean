/-
# A booking

A form is filled in, its button lights up when the dates are valid, and the booking that was
submitted is put away.
-/
import Macrostep.Checkpoint.Stored
import Macrostep.Demo.Transcript
import Macrostep.Widget.Flight

namespace Macrostep.Demo

open Widget.Flight

/-- A text, filled up with blanks on the right to ten places. -/
def tenPlaces (s : String) : String :=
  s ++ String.ofList (List.replicate (10 - s.length) ' ')

/-- What the button of the form says. -/
def buttonText (done canSubmit : Bool) : String :=
  if done then "Success!" else if canSubmit then "Submit" else "Submit (disabled)"

/-- The form on one line. -/
def formLine (snapshot : Snapshot State Context) (canSubmit : Bool) : String :=
  let c := snapshot.context
  "  " ++ describe c.trip ++ " | start: " ++ tenPlaces (c.startDate.getD "-") ++
    " | return: " ++ tenPlaces (c.returnDate.getD "-") ++
    " | [" ++ buttonText snapshot.done canSubmit ++ "]"

/-- An input on one line; a kind of trip is shown by its name. -/
def inputLine : Event → String
  | .setTrip choice => "SetTrip(" ++ ((Trip.ofChoice? choice).map Trip.name).getD choice ++ ")"
  | .startDate date => "StartDate(" ++ describe date ++ ")"
  | .returnDate date => "ReturnDate(" ++ describe date ++ ")"
  | .submit => "Submit"

/-- What is typed into the form. -/
def bookingInputs : List Event :=
  [.submit, .setTrip Trip.roundTrip.choice, .startDate "2024-01-10", .returnDate "2024-01-05",
    .returnDate "2024-01-12", .submit]

/-- The transcript of a booking, which is put away under a name. -/
def flight (id : String) : List String :=
  Transcript.ofDraft Widget.Flight.draft "Flight Booker" fun t =>
    let t := bookingInputs.foldl
      (fun t input =>
        let t := (t.print (inputLine input)).send input
        t.print (formLine t.it.snapshot (t.it.can .submit)))
      t.start
    let checkpoint := String.ofList (t.it.checkpoint id).toText
    ("" :: "Checkpoint:" :: checkpoint.splitOn "\n").foldl Transcript.print t

end Macrostep.Demo
