/-
# Checkpoints that were cut

When a checkpoint is written, the writing may break off, and what was written up to then is found
later.  It is never taken for a checkpoint: no octets and no text that a checkpoint begins with are
read as one, wherever they break off (`Checkpoint.ofOctets_torn`, `Checkpoint.ofText_torn`), and the
form of which version it has does not matter.

What was added at the end makes a difference between the two forms.  Behind a binary record nothing
is looked at (`Checkpoint.ofOctets_append`); behind a text there may only be a gap
(`Checkpoint.ofText_append`).
-/
import Macrostep.Proofs.CheckpointRoundTrip
import Macrostep.Proofs.JsonPrefixes

namespace Macrostep

open Stored

namespace Checkpoint

/-- What is cut from a record, if anything is. -/
lemma exists_lost {A : Type} {torn whole : List A} (hbegins : torn <+: whole)
    (hne : torn ≠ whole) : ∃ lost, torn ++ lost = whole ∧ lost ≠ [] := by
  obtain ⟨lost, hwhole⟩ := hbegins
  refine ⟨lost, hwhole, ?_⟩
  rintro rfl
  exact hne (by rw [← hwhole, List.append_nil])

variable {S C : Type} [Stored S] [Stored C]

lemma toJson_ne_number (cp : Checkpoint S C) (n : Decimal.Numeral) : toJson cp ≠ .number n := by
  intro h
  cases h

variable [Lossless S]

section

variable [Lossless C]

/-- A binary record is used up by the checkpoint that it holds. -/
lemma read_toOctets (cp : Checkpoint S C) (h : cp.toOctets.length < UInt64.size) :
    read cp.toOctets = some (cp, []) := by
  have hsize := h
  rw [toOctets, write_checkpoint] at hsize
  simp only [List.length_append] at hsize
  have hcontext := reads cp.context (by omega)
  have hhistory := reads cp.history (by omega) []
  rw [List.append_nil] at hhistory
  rw [toOctets, read_write_checkpoint cp h, hcontext, Option.bind_some]
  simp only [hhistory, Option.map_some]
  rfl

variable [Thrifty S] [Thrifty C]

/-- A binary record that breaks off is not read. -/
theorem ofOctets_torn (cp : Checkpoint S C) (h : cp.toOctets.length < UInt64.size)
    {torn : Binary.Octets} (hbegins : torn <+: cp.toOctets) (hne : torn ≠ cp.toOctets) :
    (ofOctets torn : Except CheckpointError (Checkpoint S C)) = .error .deserializationFailed := by
  obtain ⟨lost, hwhole, hlost⟩ := exists_lost hbegins hne
  have hread : read (torn ++ lost) = some (cp, []) := hwhole ▸ read_toOctets cp h
  rw [ofOctets, frugal.torn hread hlost]
  rfl

/-- What follows a binary record is not looked at. -/
theorem ofOctets_append (cp : Checkpoint S C) (h : cp.toOctets.length < UInt64.size)
    (extra : Binary.Octets) : (ofOctets (cp.toOctets ++ extra) :
      Except CheckpointError (Checkpoint S C)) = ofOctets cp.toOctets := by
  have hread := read_toOctets cp h
  rw [ofOctets, ofOctets, frugal cp.toOctets cp [] hread extra, hread]
  rfl

end

section

variable [Spelled C]

lemma spelled_checkpoint (cp : Checkpoint S C) : (toJson cp).WellSpelled :=
  Json.wellSpelled_record.mpr (by simp [spelled])

/-- A text that breaks off is not read. -/
theorem ofText_torn (cp : Checkpoint S C) {torn : List Char} (hbegins : torn <+: cp.toText)
    (hne : torn ≠ cp.toText) :
    (ofText torn : Except CheckpointError (Checkpoint S C)) = .error .deserializationFailed := by
  obtain ⟨lost, hwhole, hlost⟩ := exists_lost hbegins hne
  rw [ofText, Json.parse?_torn cp.spelled_checkpoint cp.toJson_ne_number hwhole hlost]
  rfl

/-- Behind a text nothing may stand but a gap. -/
theorem ofText_append (cp : Checkpoint S C) (extra : List Char) :
    (ofText (cp.toText ++ extra) : Except CheckpointError (Checkpoint S C)) =
      if extra.all Json.isGap then ofText cp.toText else .error .deserializationFailed := by
  have hspelled := cp.spelled_checkpoint
  rw [ofText, ofText, toText, Json.parse?_indented_append hspelled cp.toJson_ne_number,
    Json.parse?_indented hspelled]
  split <;> rfl

end

end Checkpoint

namespace Script

open Checkpoint

/-- What is found of a checkpoint of a scripted machine when the end of its record or of its text
was lost, or something was added to it.  A binary record has fewer octets than a length of eight
octets can count. -/
structure Marred {S : Type} [Stored S] (cp : Checkpoint S Context) : Prop where
  /-- No beginning of the binary record is read. -/
  octets_torn : cp.toOctets.length < UInt64.size → ∀ torn, torn <+: cp.toOctets →
    torn ≠ cp.toOctets → (ofOctets torn : Except CheckpointError (Checkpoint S Context)) =
      .error .deserializationFailed
  /-- With whatever octets behind it, the binary record is read as without them. -/
  octets_extra : cp.toOctets.length < UInt64.size → ∀ extra,
    (ofOctets (cp.toOctets ++ extra) : Except CheckpointError (Checkpoint S Context)) =
      ofOctets cp.toOctets
  /-- No beginning of the text is read. -/
  text_torn : ∀ torn, torn <+: cp.toText → torn ≠ cp.toText →
    (ofText torn : Except CheckpointError (Checkpoint S Context)) = .error .deserializationFailed
  /-- With anything behind it that is not all gap, the text is not read. -/
  text_extra : ∀ extra, (∃ c ∈ extra, Json.isGap c = false) →
    (ofText (cp.toText ++ extra) : Except CheckpointError (Checkpoint S Context)) =
      .error .deserializationFailed

lemma marred_of_lossless {S : Type} [Stored S] [Lossless S] [Thrifty S]
    (cp : Checkpoint S Context) : Marred cp where
  octets_torn h _ := cp.ofOctets_torn h
  octets_extra h := cp.ofOctets_append h
  text_torn _ := cp.ofText_torn
  text_extra extra hextra := by
    obtain ⟨c, hc, hgap⟩ := hextra
    rw [ofText_append, if_neg]
    intro hall
    rw [List.all_eq_true.mp hall c hc] at hgap
    cases hgap

/-- A checkpoint of a scripted machine that was cut is not taken for a checkpoint, wherever it was
cut and of whichever version, texts, numbers and entries it is; one that something was added to is
the same as before in octets, and none in a text. -/
theorem checkpoint_never_torn : (∀ cp : Checkpoint MarkedState Context, Marred cp) ∧
    ∀ cp : Checkpoint PlainState Context, Marred cp :=
  ⟨marred_of_lossless, marred_of_lossless⟩

/-- The last octet or character of a checkpoint is missed; another octet is not noticed, and
another character is, whatever version the checkpoint is of. -/
theorem thorny_never_torn :
    Checkpoint.ofOctets (S := MarkedState) (C := Context) (thorny 7).toOctets.dropLast =
      .error .deserializationFailed ∧
    Checkpoint.ofOctets (S := MarkedState) (C := Context) ((thorny 7).toOctets ++ [0]) =
      Checkpoint.ofOctets (thorny 7).toOctets ∧
    Checkpoint.ofText (S := MarkedState) (C := Context) (thorny 7).toText.dropLast =
      .error .deserializationFailed ∧
    Checkpoint.ofText (S := MarkedState) (C := Context) ((thorny 7).toText ++ ['\n', '0']) =
      .error .deserializationFailed := by
  have hlength : (thorny 7).toOctets.length < UInt64.size := by decide +kernel
  have hoctets : (thorny 7).toOctets.dropLast ≠ (thorny 7).toOctets := by decide +kernel
  have htext : (thorny 7).toText.dropLast ≠ (thorny 7).toText := by decide +kernel
  have hmarred := checkpoint_never_torn.1 (thorny 7)
  exact ⟨hmarred.octets_torn hlength _ (List.dropLast_prefix _) hoctets,
    hmarred.octets_extra hlength [0], hmarred.text_torn _ (List.dropLast_prefix _) htext,
    hmarred.text_extra ['\n', '0'] ⟨'0', by simp, rfl⟩⟩

end Script

end Macrostep
