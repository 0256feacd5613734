/-
# Binary records

Values as octets, without any marks between them: whole numbers with a fixed number of octets, the
lowest first; texts and lists after their length in eight octets; a value that may be missing after
one octet that says whether it is there.  Reading takes what it needs from the front and leaves the
rest.
-/

namespace Macrostep.Binary

/-- The octets of a binary record. -/
abbrev Octets := List UInt8

/-- Takes a value from the front, if there is one. -/
abbrev Reader (T : Type) := Octets → Option (T × Octets)

/-- A whole number in a given number of octets, the lowest first. -/
def writeNat : Nat → Nat → Octets
  | 0, _ => []
  | width + 1, n => UInt8.ofNat n :: writeNat width (n / 256)

/-- Reads a whole number of a given number of octets. -/
def readNat : Nat → Reader Nat
  | 0, os => some (0, os)
  | _ + 1, [] => none
  | width + 1, o :: os => (readNat width os).map fun (n, rest) => (o.toNat + 256 * n, rest)

/-- Reads a given number of octets. -/
def readOctets (count : Nat) : Reader Octets := fun os =>
  if count ≤ os.length then some (os.splitAt count) else none

/-- A text: its length in octets, and its UTF-8 form. -/
def writeText (s : String) : Octets :=
  let octets := s.toUTF8.data.toList
  writeNat 8 octets.length ++ octets

/-- Reads a text; its octets must be UTF-8. -/
def readText : Reader String := fun os => do
  let (length, os) ← readNat 8 os
  let (octets, os) ← readOctets length os
  let s ← String.fromUTF8? ⟨octets.toArray⟩
  some (s, os)

/-- A value that may be missing. -/
def writeOption {T : Type} (write : T → Octets) : Option T → Octets
  | none => [0]
  | some value => 1 :: write value

/-- Reads a value that may be missing. -/
def readOption {T : Type} (read : Reader T) : Reader (Option T)
  | 0 :: os => some (none, os)
  | 1 :: os => (read os).map fun (value, rest) => (some value, rest)
  | _ => none

/-- A list: its length, and its elements. -/
def writeList {T : Type} (write : T → Octets) (values : List T) : Octets :=
  writeNat 8 values.length ++ values.flatMap write

/-- Reads a given number of values. -/
def readMany {T : Type} (read : Reader T) : Nat → Reader (List T)
  | 0, os => some ([], os)
  | count + 1, os => do
    let (value, os) ← read os
    let (values, os) ← readMany read count os
    some (value :: values, os)

/-- Reads a list. -/
def readList {T : Type} (read : Reader T) : Reader (List T) := fun os => do
  let (length, os) ← readNat 8 os
  readMany read length os

/-- What was written is read back, whatever follows it. -/
theorem readNat_writeNat (width n : Nat) (os : Octets) (h : n < Nat.pow 256 width) :
    readNat width (writeNat width n ++ os) = some (n, os) := by
  induction width generalizing n with
  | zero => simp_all [readNat, writeNat]
  | succ width ih =>
    have : n / 256 < Nat.pow 256 width := by
      rw [Nat.div_lt_iff_lt_mul (by decide)]
      simpa [Nat.pow_succ] using h
    simp only [writeNat, List.cons_append, readNat, ih _ this, Option.map_some,
      UInt8.toNat_ofNat']
    congr 2
    omega

end Macrostep.Binary
