/-
# Descriptions

What a developer is shown of a value: its parts by name, texts in quotes, code by a placeholder.
-/
import Macrostep.Decimal.Layout
import Macrostep.Interpreter.Run
import Macrostep.Text.Quoted

namespace Macrostep

open Decimal Text

/-- Values that can be described. -/
class Describe (T : Type) where
  /-- The description of a value. -/
  describe : T → String

export Describe (describe)

/-- Descriptions between an opening and a closing mark, with commas between them. -/
def describeAll (opening closing : String) (parts : List String) : String :=
  opening ++ ", ".intercalate parts ++ closing

/-- The description of a record: its name, and its fields by name. -/
def describeRecord (name : String) (fields : List (String × String)) : String :=
  describeAll (name ++ " \x7b ") " \x7d" (fields.map fun (field, value) => field ++ ": " ++ value)

/-- The description of a table: what stands under each key. -/
def describeTable (rows : List (String × String)) : String :=
  describeAll "\x7b" "\x7d" (rows.map fun (key, value) => key ++ ": " ++ value)

instance : Describe String := ⟨quoted⟩
instance : Describe Bool := ⟨fun b => if b then "true" else "false"⟩
instance : Describe Nat := ⟨toString⟩
instance : Describe Int64 := ⟨fun i => toString i.toInt⟩
instance : Describe UInt32 := ⟨fun n => toString n.toNat⟩
instance : Describe Binary64 := ⟨Binary64.describe⟩

instance {T : Type} [Describe T] : Describe (Option T) where
  describe
    | some value => "Some(" ++ describe value ++ ")"
    | none => "None"

instance {T : Type} [Describe T] : Describe (List T) where
  describe values := describeAll "[" "]" (values.map describe)

instance : Describe Status where
  describe
    | .notStarted => "NotStarted"
    | .running => "Running"
    | .stopped => "Stopped"

variable {S C E K O : Type}

instance : Describe (Action C E O) where
  describe
    | .assign _ => "Assign"
    | .exec _ => "Exec"

/-- The description of a guard, which is code. -/
def describeGuard (_ : Guard C E) : String := "Guard"

instance : Describe (Handle E O) where
  describe handle :=
    describeRecord "EffectHandle" [("id", describe handle.id), ("active", describe handle.isActive)]

instance : Describe (Effect C E O) where
  describe effect := describeRecord "Invoke" [("id", describe effect.id)]

variable [Describe S]

instance : Describe (Transition S C E O) where
  describe t := describeRecord "TransitionDef"
    [("guarded", describe t.isGuarded), ("actions", describe t.actions),
      ("target", describe t.target)]

/-- The description of a table of transitions; `kindName` names a kind of event. -/
def EventTable.describe (kindName : K → String) (table : EventTable K (Transition S C E O)) :
    String :=
  describeTable (table.rows.map fun (kind, ts) => (kindName kind, Describe.describe ts))

/-- The description of a node. -/
def Node.describe [Kinded E K] (node : Node S C E K O) : String :=
  describeRecord "StateNode"
    [("on", node.on.describe (Kinded.kindName E)), ("always", Describe.describe node.always),
      ("invoke", Describe.describe node.effect), ("is_final", Describe.describe node.isFinal)]

variable [Describe C]

instance [Kinded E K] : Describe (Definition S C E K O) where
  describe d := describeRecord "MachineDefinition"
    [("id", describe d.id), ("initial", describe d.initial), ("context", describe d.context),
      ("states", describeTable (d.nodes.map fun (state, node) => (describe state, node.describe))),
      ("global", d.shared.describe (Kinded.kindName E))]

instance : Describe (Snapshot S C) where
  describe snapshot := describeRecord "Snapshot"
    [("state", describe snapshot.state), ("context", describe snapshot.context),
      ("done", describe snapshot.done)]

/-- The description of an interpreter, under the name of its session. -/
def Interpreter.describe (session : String) (it : Interpreter S C E K O) : String :=
  describeRecord "Interpreter"
    [("id", session), ("machine", Describe.describe it.definition.id),
      ("status", Describe.describe it.status), ("snapshot", Describe.describe it.snapshot),
      ("subscribers", Describe.describe it.subscribers.length)]

end Macrostep
