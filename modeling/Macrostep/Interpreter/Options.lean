/-
# Options of an interpreter

Bounds and switches that are set when an interpreter is made.
-/

namespace Macrostep

/-- How an interpreter treats chains, early events and its history. -/
structure Options where
  /-- The most eventless transitions in a row. -/
  maxEventlessSteps : Nat := 100
  /-- Whether events sent before the start are kept for it. -/
  deferEvents : Bool := true
  /-- Whether entered states are recorded. -/
  recordHistory : Bool := true
  /-- The most entries that are kept. -/
  historyLimit : Option Nat := none
deriving DecidableEq

end Macrostep
