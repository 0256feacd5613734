/-
# Registries

Guards and actions registered under names.  Guards and actions have separate names, and a later
registration replaces an earlier one of the same name.
-/
import Macrostep.Action

namespace Macrostep

/-- Guards and actions under names; of two with one name the one in front counts. -/
structure Registry (C E O : Type) where
  /-- The registered guards, the latest first. -/
  guards : List (String × Guard C E) := []
  /-- The registered actions, the latest first. -/
  actions : List (String × Action C E O) := []

namespace Registry

variable {C E O : Type}

/-- The guard that is registered under a name. -/
def guard? (r : Registry C E O) (name : String) : Option (Guard C E) := r.guards.lookup name

/-- The action that is registered under a name. -/
def action? (r : Registry C E O) (name : String) : Option (Action C E O) := r.actions.lookup name

/-- Registers a guard. -/
def withGuard (r : Registry C E O) (name : String) (guard : Guard C E) : Registry C E O :=
  { r with guards := (name, guard) :: r.guards }

/-- Registers an action. -/
def withAction (r : Registry C E O) (name : String) (action : Action C E O) : Registry C E O :=
  { r with actions := (name, action) :: r.actions }

/-- Registers everything that `other` holds. -/
def extend (r other : Registry C E O) : Registry C E O where
  guards := other.guards ++ r.guards
  actions := other.actions ++ r.actions

/-- The guards of the registry that was merged last come first. -/
theorem guard?_extend (r other : Registry C E O) (name : String) :
    (r.extend other).guard? name = (other.guard? name).or (r.guard? name) := by
  simp [guard?, extend, List.lookup_append]

theorem action?_extend (r other : Registry C E O) (name : String) :
    (r.extend other).action? name = (other.action? name).or (r.action? name) := by
  simp [action?, extend, List.lookup_append]

end Registry

end Macrostep
