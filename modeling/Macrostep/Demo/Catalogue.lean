/-
# The transcripts by name
-/
import Macrostep.Demo.Counter
import Macrostep.Demo.Flight
import Macrostep.Demo.Temperature

namespace Macrostep.Demo

/-- The names of the transcripts. -/
def names : List String := ["counter", "flight_booker", "temperature"]

/-- The lines of the transcript with a name.  What is put away gets the name `id`. -/
def lines? (id : String) : String → Option (List String)
  | "counter" => some counter
  | "flight_booker" => some (flight id)
  | "temperature" => some temperature
  | _ => none

end Macrostep.Demo
