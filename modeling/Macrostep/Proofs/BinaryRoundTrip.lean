/-
# What is written as octets is read back

Every kind of binary record is taken from the front of the octets as it was put there, and what
follows it is left: whole numbers that fit their places (`Binary.reads_nat`), texts
(`Binary.reads_text`), values that may be missing (`Binary.reads_option`) and lists
(`Binary.reads_list`).  Texts and lists are written after their length, so their lengths have to be
numbers of eight octets.
-/
import Mathlib.Tactic.Lemma
import Macrostep.Binary

namespace Macrostep.Binary

variable {T : Type} {write : T → Octets} {read : Reader T} {os rest : Octets} {x : T}

/-- Octets from which a reader takes a value, whatever follows them. -/
def Reads (read : Reader T) (os : Octets) (x : T) : Prop :=
  ∀ rest, read (os ++ rest) = some (x, rest)

@[simp] lemma length_writeNat (width n : Nat) : (writeNat width n).length = width := by
  induction width generalizing n with
  | zero => rfl
  | succ width ih => rw [writeNat, List.length_cons, ih]

lemma reads_nat {width n : Nat} (h : n < Nat.pow 256 width) :
    Reads (readNat width) (writeNat width n) n :=
  fun rest => readNat_writeNat width n rest h

/-- A length is a number of eight octets. -/
lemma reads_length {n : Nat} (h : n < UInt64.size) : Reads (readNat 8) (writeNat 8 n) n :=
  reads_nat (by simpa [UInt64.size] using h)

lemma readOctets_append (os rest : Octets) :
    readOctets os.length (os ++ rest) = some (os, rest) := by
  rw [readOctets, if_pos (by simp), List.splitAt_eq, List.take_left, List.drop_left]

lemma fromUTF8?_toUTF8 (s : String) : String.fromUTF8? s.toUTF8 = some s := by
  unfold String.fromUTF8?
  exact dif_pos s.isValidUTF8

/-- A text is read back. -/
theorem reads_text {s : String} (h : (writeText s).length < UInt64.size) :
    Reads readText (writeText s) s := by
  intro rest
  rw [writeText, List.length_append] at h
  have hlength := reads_length (n := s.toUTF8.data.toList.length) (by omega)
  have hread : String.fromUTF8? ⟨s.toUTF8.data⟩ = some s := fromUTF8?_toUTF8 s
  simp only [readText, writeText, List.append_assoc, hlength _, Option.bind_eq_bind,
    Option.bind_some, readOctets_append, Array.toArray_toList, hread]

lemma writeText_ne_nil (s : String) : writeText s ≠ [] := by
  simp [writeText, writeNat]

/-- A value that may be missing is read back if it is read back where it is there. -/
theorem reads_option {value : Option T} (h : ∀ x, value = some x → Reads read (write x) x) :
    Reads (readOption read) (writeOption write value) value := by
  intro rest
  cases value with
  | none => rfl
  | some x => simp [writeOption, readOption, h x rfl rest]

lemma writeOption_ne_nil (value : Option T) : writeOption write value ≠ [] := by
  cases value <;> simp [writeOption]

lemma reads_many {values : List T} (h : ∀ x ∈ values, Reads read (write x) x) :
    Reads (readMany read values.length) (values.flatMap write) values := by
  intro rest
  induction values with
  | nil => rfl
  | cons x values ih =>
    rw [List.forall_mem_cons] at h
    simp only [List.flatMap_cons, List.append_assoc, List.length_cons, readMany, h.1 _, ih h.2,
      Option.bind_eq_bind, Option.bind_some]

/-- A list has no more elements than octets, if every element takes an octet at least. -/
lemma length_le_flatMap (hwrite : ∀ x, write x ≠ []) (values : List T) :
    values.length ≤ (values.flatMap write).length := by
  induction values with
  | nil => simp
  | cons x values ih =>
    have hx := List.length_pos_iff.mpr (hwrite x)
    rw [List.flatMap_cons, List.length_append, List.length_cons]
    omega

lemma length_le_flatMap_of_mem {values : List T} (hx : x ∈ values) :
    (write x).length ≤ (values.flatMap write).length := by
  obtain ⟨before, after, rfl⟩ := List.append_of_mem hx
  simp only [List.flatMap_append, List.flatMap_cons, List.length_append]
  omega

/-- A list is read back if its elements are. -/
theorem reads_list {values : List T} (hwrite : ∀ x, write x ≠ [])
    (h : ∀ x ∈ values, Reads read (write x) x)
    (hsize : (writeList write values).length < UInt64.size) :
    Reads (readList read) (writeList write values) values := by
  intro rest
  rw [writeList, List.length_append] at hsize
  have hlength := reads_length (n := values.length)
    (by have := length_le_flatMap hwrite values; omega)
  simp only [readList, writeList, List.append_assoc, hlength _, Option.bind_eq_bind,
    Option.bind_some, reads_many h rest]

end Macrostep.Binary
