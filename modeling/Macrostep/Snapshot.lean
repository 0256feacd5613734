/-
# Snapshots

What an observer sees of a machine: the state, the context, and whether the state is final.
-/

namespace Macrostep

/-- The position of a machine. -/
structure Snapshot (S C : Type) where
  /-- The current state. -/
  state : S
  /-- The current context. -/
  context : C
  /-- Whether the current state is final. -/
  done : Bool
deriving DecidableEq

/-- Whether a snapshot is in a given state. -/
def Snapshot.isIn {S C : Type} [DecidableEq S] (snapshot : Snapshot S C) (state : S) : Bool :=
  snapshot.state = state

end Macrostep
