/-
# Stored checkpoints

Checkpoints, histories and snapshots as JSON texts and binary records, with their fields in the
order of their declaration.
-/
import Macrostep.Checkpoint.Basic
import Macrostep.Json.Parser
import Macrostep.Stored

namespace Macrostep

open Binary Stored

variable {S C : Type} [Stored S]

instance : Stored (Entry S) where
  toJson entry := .record [("from", toJson entry.source), ("to", toJson entry.target),
    ("event", toJson entry.event), ("timestamp", toJson entry.time)]
  ofJson? j := do
    let [source, target, event, time] ← j.fields? ["from", "to", "event", "timestamp"] | none
    let source ← required source
    let target ← required target
    let event ← Json.maybe? ofJson? event
    let time ← required time
    some { source, target, event, time }
  write entry :=
    write entry.source ++ write entry.target ++ write entry.event ++ write entry.time
  read os := do
    let (source, os) ← read os
    let (target, os) ← read os
    let (event, os) ← read os
    let (time, os) ← read os
    some ({ source, target, event, time }, os)

instance : Stored (History S) where
  toJson history := .record [("transitions", toJson history.toList)]
  ofJson? j := do
    let [entries] ← j.fields? ["transitions"] | none
    some ⟨(← required entries : List (Entry S)).toArray⟩
  write history := write history.toList
  read os := (read os).map fun (entries, rest) => (⟨List.toArray entries⟩, rest)

variable [Stored C]

instance : Stored (Checkpoint S C) where
  toJson cp := .record [("version", toJson cp.version), ("id", toJson cp.id),
    ("timestamp", toJson cp.timestamp), ("machine", toJson cp.machine),
    ("state", toJson cp.state), ("context", toJson cp.context), ("history", toJson cp.history)]
  ofJson? j := do
    let [version, id, timestamp, machine, state, context, history] ←
      j.fields? ["version", "id", "timestamp", "machine", "state", "context", "history"] | none
    let version ← required version
    let id ← required id
    let timestamp ← required timestamp
    let machine ← required machine
    let state ← required state
    let context ← required context
    let history ← required history
    some { version, id, timestamp, machine, state, context, history }
  write cp :=
    write cp.version ++ write cp.id ++ write cp.timestamp ++ write cp.machine ++
      write cp.state ++ write cp.context ++ write cp.history
  read os := do
    let (version, os) ← read os
    let (id, os) ← read os
    let (timestamp, os) ← read os
    let (machine, os) ← read os
    let (state, os) ← read os
    let (context, os) ← read os
    let (history, os) ← read os
    some ({ version, id, timestamp, machine, state, context, history }, os)

namespace Checkpoint

/-- A checkpoint as a JSON text, indented. -/
def toText (cp : Checkpoint S C) : List Char := (toJson cp).indented 0

/-- Accepts what was read if it is a checkpoint of the supported version. -/
def accept : Option (Checkpoint S C) → Except CheckpointError (Checkpoint S C)
  | some cp => cp.checkVersion.map fun _ => cp
  | none => .error .deserializationFailed

/-- The checkpoint that a JSON text spells. -/
def ofText (cs : List Char) : Except CheckpointError (Checkpoint S C) :=
  accept ((Json.parse? cs).bind ofJson?)

/-- A checkpoint as a binary record. -/
def toOctets (cp : Checkpoint S C) : Octets := write cp

/-- The checkpoint at the beginning of a binary record; what follows it is not looked at. -/
def ofOctets (os : Octets) : Except CheckpointError (Checkpoint S C) :=
  accept ((read os).map Prod.fst)

end Checkpoint

/-- A snapshot as JSON. -/
def Snapshot.toJson (snapshot : Snapshot S C) : Json :=
  .record [("state", Stored.toJson snapshot.state), ("context", Stored.toJson snapshot.context),
    ("done", .bool snapshot.done)]

/-- The snapshot that a JSON value stands for. -/
def Snapshot.ofJson? (j : Json) : Option (Snapshot S C) := do
  let [state, context, done] ← j.fields? ["state", "context", "done"] | none
  let state ← required state
  let context ← required context
  let done ← done.bind Json.bool?
  some { state, context, done }

/-- The largest number that an option can hold. -/
def Options.largest : Nat := UInt64.size - 1

/-- Options as JSON. -/
def Options.toJson (o : Options) : Json :=
  .record [("max_eventless_steps", Json.int o.maxEventlessSteps),
    ("defer_events", .bool o.deferEvents), ("record_history", .bool o.recordHistory),
    ("history_limit", Json.optional (fun n => Json.int (n : Nat)) o.historyLimit)]

/-- The options that a JSON value stands for; fields that are missing have their defaults. -/
def Options.ofJson? (j : Json) : Option Options := do
  let [steps, defer, record, limit] ← j.leadingFields?
    ["max_eventless_steps", "defer_events", "record_history", "history_limit"] | none
  let default : Options := {}
  let maxEventlessSteps ← orDefault default.maxEventlessSteps number? steps
  let deferEvents ← orDefault default.deferEvents Json.bool? defer
  let recordHistory ← orDefault default.recordHistory Json.bool? record
  let historyLimit ← Json.maybe? number? limit
  some { maxEventlessSteps, deferEvents, recordHistory, historyLimit }
where
  number? (j : Json) : Option Nat := (j.int? 0 Options.largest).map Int.toNat
  orDefault {T : Type} (default : T) (read : Json → Option T) : Option Json → Option T
    | none => some default
    | some value => read value

/-- The options that a JSON text spells. -/
def Options.ofText? (cs : List Char) : Option Options := (Json.parse? cs).bind Options.ofJson?

end Macrostep
