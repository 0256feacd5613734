/-
# The command line

Prints the transcript of a sample machine that is given by name.
-/
import Macrostep.Demo.Catalogue

namespace Macrostep

/-- The name under which a sample is put away. -/
def sampleId : String := "sample"

end Macrostep

/-- Prints the transcript that the first argument names. -/
def main (arguments : List String) : IO UInt32 := do
  match arguments.head?.bind (Macrostep.Demo.lines? Macrostep.sampleId) with
  | some lines =>
    for line in lines do
      IO.println line
    return 0
  | none =>
    IO.eprintln ("usage: one of " ++ ", ".intercalate Macrostep.Demo.names)
    return 1
