/-
# Checkpoints

The position of a machine, put away so that another interpreter of the same machine can go on from
it.  Machines themselves are not put away, so a checkpoint is validated against the machine that is
to go on.
-/
import Macrostep.Interpreter.Run

namespace Macrostep

open Time

/-- The version of the form that checkpoints have. -/
def checkpointVersion : UInt32 := 1

/-- The position of a machine, put away. -/
structure Checkpoint (S C : Type) where
  /-- The version of its form. -/
  version : UInt32
  /-- Its name. -/
  id : String
  /-- When it was taken. -/
  timestamp : Timestamp
  /-- The name of the machine. -/
  machine : String
  /-- The current state. -/
  state : S
  /-- The current context. -/
  context : C
  /-- The states that were entered. -/
  history : History S
deriving DecidableEq

/-- Why a checkpoint cannot be written, read or used. -/
inductive CheckpointError
  /-- The text or the octets do not spell a checkpoint. -/
  | deserializationFailed
  /-- The checkpoint has a form of another version. -/
  | unsupportedVersion (found supported : UInt32)
  /-- The checkpoint belongs to another machine. -/
  | machineMismatch (expected found : String)
  /-- The machine does not declare the state of the checkpoint. -/
  | unknownState (state : String)
deriving DecidableEq

/-- The wording of an error. -/
def CheckpointError.message : CheckpointError → String
  | deserializationFailed => "Deserialization failed: "
  | unsupportedVersion found supported =>
    s!"Unsupported checkpoint version {found}, supported: {supported}"
  | machineMismatch expected found =>
    s!"Checkpoint belongs to machine '{found}', expected '{expected}'"
  | unknownState state => s!"State '{state}' is not declared by the machine definition"

namespace Checkpoint

variable {S C E K O : Type}

/-- Accepts checkpoints of the supported version alone. -/
def checkVersion (cp : Checkpoint S C) : Except CheckpointError Unit :=
  if cp.version = checkpointVersion then .ok ()
  else .error (.unsupportedVersion cp.version checkpointVersion)

variable [DecidableEq S] [Label S]

/-- Accepts checkpoints from which the machine can go on: first the version is looked at, then the
name of the machine, then the state. -/
def validate (cp : Checkpoint S C) (d : Definition S C E K O) : Except CheckpointError Unit := do
  cp.checkVersion
  if cp.machine ≠ d.id then .error (.machineMismatch d.id cp.machine)
  else if !d.contains cp.state then .error (.unknownState (Label.name cp.state))
  else .ok ()

end Checkpoint

namespace Interpreter

variable {S C E K O : Type}

/-- Puts the current position away under a name. -/
def checkpoint (it : Interpreter S C E K O) (id : String) : Checkpoint S C where
  version := checkpointVersion
  id
  timestamp := .ofNanos it.now
  machine := it.definition.id
  state := it.snapshot.state
  context := it.snapshot.context
  history := it.history

/-- An interpreter at the position of a checkpoint; it is not started. -/
def resume [DecidableEq S] [Label S] (definition : Definition S C E K O) (cp : Checkpoint S C)
    (options : Options := {}) : Except CheckpointError (Interpreter S C E K O) := do
  cp.validate definition
  let snapshot : Snapshot S C := ⟨cp.state, cp.context, definition.isFinal cp.state⟩
  .ok { definition, options, snapshot, history := cp.history, watched := ⟨snapshot, 0⟩ }

end Interpreter

end Macrostep
