/-
# What is put away as a checkpoint comes back

A checkpoint is read back from its JSON text and from its binary record, and refused if its form is
of another version than the supported one.  The laws are first stated for any states and contexts
that are lossless (`Checkpoint.ofText_toText`, `Checkpoint.ofOctets_toOctets`), where the context
may also be one that comes back as something else; then for the checkpoints of scripted machines.
-/
import Macrostep.Checkpoint.Stored
import Macrostep.Proofs.Lossless
import Macrostep.Script.Context

namespace Macrostep

open Binary Stored

/-! ## Histories -/

section

variable {S : Type} [Stored S]

lemma write_entry (entry : Entry S) : write entry =
    write entry.source ++ (write entry.target ++ (write entry.event ++ write entry.time)) := by
  simp only [write, List.append_assoc]

instance : NeverEmpty (Entry S) where
  write_ne_nil entry := by
    have hevent : write entry.event ≠ [] := writeOption_ne_nil entry.event
    simp [write_entry, hevent]

lemma write_history (history : History S) : write history = write history.toList := rfl

variable [Lossless S]

instance : Lossless (Entry S) where
  spelled entry := Json.wellSpelled_record.mpr (by simp [spelled])
  ofJson?_toJson entry := by
    have hfields : (toJson entry).fields? ["from", "to", "event", "timestamp"] =
        some [some (toJson entry.source), some (toJson entry.target), some (toJson entry.event),
          some (toJson entry.time)] :=
      Json.fields?_record (by simp)
    have hevent : Json.maybe? ofJson? (some (toJson entry.event)) = some entry.event :=
      ofJson?_toJson entry.event
    change ((toJson entry).fields? ["from", "to", "event", "timestamp"]).bind _ = _
    rw [hfields]
    simp only [required, hevent, ofJson?_toJson, Option.bind_eq_bind, Option.bind_some]
  reads entry h rest := by
    rw [write_entry] at h ⊢
    simp only [List.length_append] at h
    have hsource := reads entry.source (by omega)
    have htarget := reads entry.target (by omega)
    have hevent := reads entry.event (by omega)
    have htime := reads entry.time (by omega)
    simp only [List.append_assoc]
    change (read (write entry.source ++ _)).bind _ = _
    simp only [hsource _, htarget _, hevent _, htime _, Option.bind_eq_bind, Option.bind_some]

instance : Lossless (History S) where
  spelled history := Json.wellSpelled_record.mpr (by simp [spelled])
  ofJson?_toJson history := by
    have hfields : (toJson history).fields? ["transitions"] = some [some (toJson history.toList)] :=
      Json.fields?_record (by simp)
    change ((toJson history).fields? ["transitions"]).bind _ = _
    rw [hfields]
    simp only [required, ofJson?_toJson, Option.bind_eq_bind, Option.bind_some]
    rfl
  reads history h rest := by
    rw [write_history] at h ⊢
    have hentries := reads history.toList h
    change (read (write history.toList ++ rest)).map _ = _
    rw [hentries]
    rfl

end

/-! ## Checkpoints -/

namespace Checkpoint

section

variable {S C : Type}

/-- A checkpoint with another context. -/
def withContext (cp : Checkpoint S C) (context : C) : Checkpoint S C := { cp with context }

/-- What a checkpoint is read back as if nothing of it is lost: itself, unless its form is of a
version that is not supported. -/
def recovered (cp : Checkpoint S C) : Except CheckpointError (Checkpoint S C) :=
  if cp.version = 1 then .ok cp else .error (.unsupportedVersion cp.version 1)

lemma accept_some (cp : Checkpoint S C) : accept (some cp) = cp.recovered := by
  rw [accept, checkVersion, recovered, checkpointVersion]
  split <;> rfl

end

section

variable {S C : Type} [Stored S] [Stored C]

lemma write_checkpoint (cp : Checkpoint S C) : write cp =
    write cp.version ++ (write cp.id ++ (write cp.timestamp ++ (write cp.machine ++
      (write cp.state ++ (write cp.context ++ write cp.history))))) := by
  simp only [write, List.append_assoc]

variable [Lossless S]

/-- From JSON everything but the context comes back whatever the context is. -/
lemma ofJson?_toJson_checkpoint (cp : Checkpoint S C) :
    ofJson? (toJson cp) = (ofJson? (toJson cp.context)).map cp.withContext := by
  have hfields : (toJson cp).fields?
      ["version", "id", "timestamp", "machine", "state", "context", "history"] =
        some [some (toJson cp.version), some (toJson cp.id), some (toJson cp.timestamp),
          some (toJson cp.machine), some (toJson cp.state), some (toJson cp.context),
          some (toJson cp.history)] :=
    Json.fields?_record (by simp)
  change ((toJson cp).fields?
    ["version", "id", "timestamp", "machine", "state", "context", "history"]).bind _ = _
  rw [hfields]
  simp only [required, ofJson?_toJson, Option.bind_eq_bind, Option.bind_some]
  cases (ofJson? (toJson cp.context) : Option C) <;> rfl

/-- What the JSON text of a checkpoint spells, whatever becomes of the context. -/
theorem ofText_toText [Spelled C] (cp : Checkpoint S C) :
    ofText cp.toText = accept ((ofJson? (toJson cp.context)).map cp.withContext) := by
  have hspelled : (toJson cp).WellSpelled := Json.wellSpelled_record.mpr (by simp [spelled])
  rw [ofText, toText, Json.parse?_indented hspelled, Option.bind_some, ofJson?_toJson_checkpoint]

/-- A checkpoint of the supported version comes back from its JSON text if its context does. -/
theorem ofText_eq_ok_iff [Spelled C] {cp : Checkpoint S C} (hversion : cp.version = 1) :
    ofText cp.toText = .ok cp ↔ ofJson? (toJson cp.context) = some cp.context := by
  rw [ofText_toText]
  cases (ofJson? (toJson cp.context) : Option C) with
  | none => exact ⟨nofun, nofun⟩
  | some context =>
    have hsome : (cp.withContext context).recovered = .ok (cp.withContext context) :=
      if_pos hversion
    rw [Option.map_some, accept_some, hsome]
    constructor
    · intro h
      exact congrArg some (congrArg Checkpoint.context (Except.ok.inj h))
    · intro h
      rw [Option.some.inj h]
      rfl

/-- From octets everything before the context comes back whatever the context is. -/
lemma read_write_checkpoint (cp : Checkpoint S C) (h : cp.toOctets.length < UInt64.size) :
    read (write cp) = (read (write cp.context ++ write cp.history)).bind fun (context, os) =>
      (read os).map fun (history, rest) => ({ cp.withContext context with history }, rest) := by
  rw [toOctets, write_checkpoint] at h
  simp only [List.length_append] at h
  have hversion := reads cp.version (by omega)
  have hid := reads cp.id (by omega)
  have htime := reads cp.timestamp (by omega)
  have hmachine := reads cp.machine (by omega)
  have hstate := reads cp.state (by omega)
  rw [write_checkpoint]
  change (read (write cp.version ++ _)).bind _ = _
  simp only [hversion _, hid _, htime _, hmachine _, hstate _, Option.bind_eq_bind,
    Option.bind_some]
  cases hcontext : (read (write cp.context ++ write cp.history) : Option (C × Octets)) with
  | none => rfl
  | some context =>
    simp only [Option.bind_some]
    cases (read context.2 : Option (History S × Octets)) <;> rfl

/-- A binary record gives the checkpoint with the context that comes back. -/
theorem ofOctets_of_reads (cp : Checkpoint S C) {context : C}
    (h : cp.toOctets.length < UInt64.size) (hcontext : Reads read (write cp.context) context) :
    ofOctets cp.toOctets = (cp.withContext context).recovered := by
  have hsize := h
  rw [toOctets, write_checkpoint] at hsize
  simp only [List.length_append] at hsize
  have hhistory := reads cp.history (by omega) []
  rw [List.append_nil] at hhistory
  rw [ofOctets, toOctets, read_write_checkpoint cp h, hcontext, Option.bind_some]
  simp only [hhistory, Option.map_some]
  exact accept_some _

/-- Without a context no checkpoint can be read. -/
theorem ofOctets_of_unreadable (cp : Checkpoint S C) (h : cp.toOctets.length < UInt64.size)
    (hcontext : ∀ rest, (read (write cp.context ++ rest) : Option (C × Octets)) = none) :
    (ofOctets cp.toOctets : Except CheckpointError (Checkpoint S C)) =
      .error .deserializationFailed := by
  rw [ofOctets, toOctets, read_write_checkpoint cp h, hcontext]
  rfl

variable [Lossless C]

/-- Nothing is lost of a checkpoint whose state and context are lossless. -/
theorem ofText_lossless (cp : Checkpoint S C) : ofText cp.toText = cp.recovered := by
  rw [ofText_toText, ofJson?_toJson, Option.map_some, accept_some]
  rfl

theorem ofOctets_lossless (cp : Checkpoint S C) (h : cp.toOctets.length < UInt64.size) :
    ofOctets cp.toOctets = cp.recovered := by
  have hsize := h
  rw [toOctets, write_checkpoint] at hsize
  simp only [List.length_append] at hsize
  exact ofOctets_of_reads cp h (reads cp.context (by omega))

end

end Checkpoint

/-! ## Scripted machines -/

namespace Script

lemma write_context (c : Context) :
    write c = write c.n ++ (write c.s ++ (write c.log ++ write c.opt)) := by
  simp only [write, List.append_assoc]

instance : Lossless Context where
  spelled c := Json.wellSpelled_record.mpr (by simp [spelled])
  ofJson?_toJson c := by
    have hfields : (toJson c).fields? ["n", "s", "log", "opt"] =
        some [some (toJson c.n), some (toJson c.s), some (toJson c.log), some (toJson c.opt)] :=
      Json.fields?_record (by simp)
    have hopt : Json.maybe? ofJson? (some (toJson c.opt)) = some c.opt := ofJson?_toJson c.opt
    change ((toJson c).fields? ["n", "s", "log", "opt"]).bind _ = _
    rw [hfields]
    simp only [required, hopt, ofJson?_toJson, Option.bind_eq_bind, Option.bind_some]
  reads c h rest := by
    rw [write_context] at h ⊢
    simp only [List.length_append] at h
    have hn := reads c.n (by omega)
    have hs := reads c.s (by omega)
    have hlog := reads c.log (by omega)
    have hopt := reads c.opt (by omega)
    simp only [List.append_assoc]
    change (read (write c.n ++ _)).bind _ = _
    simp only [hn _, hs _, hlog _, hopt _, Option.bind_eq_bind, Option.bind_some]

instance : Lossless MarkedState :=
  .of_copy MarkedState.mk MarkedState.text (fun _ => rfl) (fun _ => rfl) (fun _ => rfl)
    (fun _ => rfl) (fun _ => rfl)

instance : Lossless PlainState :=
  .of_copy PlainState.mk PlainState.text (fun _ => rfl) (fun _ => rfl) (fun _ => rfl)
    (fun _ => rfl) (fun _ => rfl)

/-- Nothing is lost of a checkpoint of a scripted machine: from its JSON text and from its binary
record the same checkpoint comes back, in every field, whatever its texts, numbers and entries are;
if its form is of another version than the supported one, it is refused with both versions.  A
binary record has fewer octets than a length of eight octets can count. -/
theorem checkpoint_recovered :
    (∀ cp : Checkpoint MarkedState Context, Checkpoint.ofText cp.toText = cp.recovered ∧
      (cp.toOctets.length < UInt64.size → Checkpoint.ofOctets cp.toOctets = cp.recovered)) ∧
    ∀ cp : Checkpoint PlainState Context, Checkpoint.ofText cp.toText = cp.recovered ∧
      (cp.toOctets.length < UInt64.size → Checkpoint.ofOctets cp.toOctets = cp.recovered) :=
  ⟨fun cp => ⟨cp.ofText_lossless, cp.ofOctets_lossless⟩,
    fun cp => ⟨cp.ofText_lossless, cp.ofOctets_lossless⟩⟩

/-- A checkpoint with texts that have to be escaped, the least number, and a leap second. -/
def thorny (version : UInt32) : Checkpoint MarkedState Context where
  version
  id := "\"\\\x08\x0c\n\r\t\x00\x1f"
  timestamp := Time.Timestamp.epoch
  machine := ""
  state := ⟨"é€😀!"⟩
  context := { n := Int64.minValue, s := "null", log := ["", "\n"], opt := none }
  history := ⟨#[
    ⟨⟨"\x7f"⟩, ⟨"é€😀!"⟩, none,
      ⟨⟨-262143, 12, 31, by decide⟩, 23, 59, 60, 120000000, by decide⟩⟩,
    ⟨⟨"é€😀!"⟩, ⟨"é€😀!"⟩, some "", Time.Timestamp.epoch⟩]⟩

/-- It comes back from both forms, and with another version it is refused. -/
theorem thorny_recovered :
    Checkpoint.ofText (thorny 1).toText = .ok (thorny 1) ∧
    Checkpoint.ofOctets (thorny 1).toOctets = .ok (thorny 1) ∧
    Checkpoint.ofText (S := MarkedState) (C := Context) (thorny 7).toText =
      .error (.unsupportedVersion 7 1) ∧
    Checkpoint.ofOctets (S := MarkedState) (C := Context) (thorny 7).toOctets =
      .error (.unsupportedVersion 7 1) := by
  have hlength : (thorny 1).toOctets.length < UInt64.size ∧
      (thorny 7).toOctets.length < UInt64.size := by decide +kernel
  exact ⟨(checkpoint_recovered.1 (thorny 1)).1, (checkpoint_recovered.1 (thorny 1)).2 hlength.1,
    (checkpoint_recovered.1 (thorny 7)).1, (checkpoint_recovered.1 (thorny 7)).2 hlength.2⟩

end Script

end Macrostep
