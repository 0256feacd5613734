/-
# The converter at work

A text is typed into each field in turn, and at last a field is cleared.
-/
import Macrostep.Demo.Transcript
import Macrostep.Widget.Temperature

namespace Macrostep.Demo

open Widget.Temperature

/-- An input on one line. -/
def typingLine : Event → String
  | .celsius text => "Celsius(" ++ describe text ++ ")"
  | .fahrenheit text => "Fahrenheit(" ++ describe text ++ ")"

/-- The transcript of a conversion. -/
def temperature : List String :=
  Transcript.ofDraft Widget.Temperature.draft "Temperature Converter" fun t =>
    let t := (t.subscribe fun s => "  " ++ (Stored.toJson s.context).render).start
    [Event.celsius "100", .fahrenheit "-40", .fahrenheit ""].foldl
      (fun t input => (t.print (typingLine input)).send input) t

end Macrostep.Demo
