/-
# States

A state is a plain value that identifies a node of a machine.  Machines ask two things of it: a name
for messages and records, and whether it is final when nothing else is said.
-/

namespace Macrostep

/-- What a machine asks of its states. -/
class Label (S : Type) where
  /-- The name used in messages and records. -/
  name : S → String
  /-- Whether a state is final when its declaration does not say so. -/
  isFinal : S → Bool := fun _ => false

end Macrostep
