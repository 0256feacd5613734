/-
# Runs of digits

What is written as a run of digits is read back as the same number, whatever follows it, as long as
it is no further digit or the run has the most digits that are read.
-/
import Mathlib.Tactic.Lemma
import Macrostep.Decimal.Reading

namespace Macrostep.Text

variable {digits rest : List Char} {c : Char} {most width n : Nat}

/-- No digit stands in front of a text. -/
def NoDigit (rest : List Char) : Prop := ∀ c tail, rest = c :: tail → c.isDigit = false

lemma noDigit_cons (h : c.isDigit = false) (rest : List Char) : NoDigit (c :: rest) := by
  intro c' tail heq
  rwa [← (List.cons.inj heq).1]

/-- A run of digits is read to its end. -/
lemma spanDigits_of_digits (hdigits : ∀ c ∈ digits, c.isDigit = true)
    (hmost : digits.length ≤ most) (hrest : digits.length = most ∨ NoDigit rest) :
    spanDigits most (digits ++ rest) = (digits, rest) := by
  induction digits generalizing most with
  | nil =>
    cases most with
    | zero => rfl
    | succ most =>
      cases rest with
      | nil => rfl
      | cons c rest =>
        have hc : c.isDigit = false := hrest.resolve_left (by simp) c rest rfl
        simp [spanDigits, hc]
  | cons c digits ih =>
    rw [List.forall_mem_cons] at hdigits
    cases most with
    | zero => simp at hmost
    | succ most =>
      have hrest' : digits.length = most ∨ NoDigit rest := by
        simpa using hrest
      simp [spanDigits, hdigits.1, ih hdigits.2 (by simpa using hmost) hrest']

lemma digitsOf_of_digits (hdigits : ∀ c ∈ digits, c.isDigit = true) (hrest : NoDigit rest) :
    Decimal.digitsOf (digits ++ rest) = (digits, rest) :=
  spanDigits_of_digits hdigits (by simp) (.inr hrest)

/-! ## Decimal digits -/

lemma isDigit_of_mem_decimal (h : c ∈ decimal n) : c.isDigit = true :=
  Nat.isDigit_of_mem_toDigits (by decide) (by decide) h

@[simp] lemma valueOf_decimal (n : Nat) : valueOf (decimal n) = n :=
  Nat.ofDigitChars_ten_toDigits

@[simp] lemma decimal_ne_nil (n : Nat) : decimal n ≠ [] := Nat.toDigits_ne_nil

@[simp] lemma decimal_zero : decimal 0 = ['0'] := Nat.toDigits_zero 10

/-- The digits of a number that is not zero do not begin with a zero. -/
lemma head?_decimal_ne (h : n ≠ 0) : (decimal n).head? ≠ some '0' := by
  induction n using Nat.strongRecOn with
  | ind n ih =>
    rw [decimal, Nat.toDigits_eq_if (by decide)]
    split
    · simpa using h
    · rename_i hlt
      obtain ⟨c, digits, hdiv⟩ := List.exists_cons_of_ne_nil (decimal_ne_nil (n / 10))
      have hhead := ih (n / 10) (by omega) (by omega)
      rw [hdiv] at hhead
      rw [show Nat.toDigits 10 (n / 10) = c :: digits from hdiv]
      exact hhead

lemma isDigit_of_mem_padded (h : c ∈ padded width n) : c.isDigit = true := by
  rcases List.mem_append.mp h with h | h
  · rw [List.eq_of_mem_replicate h]
    rfl
  · exact isDigit_of_mem_decimal h

@[simp] lemma valueOf_padded (width n : Nat) : valueOf (padded width n) = n := by
  rw [padded, valueOf, Nat.ofDigitChars_append, Nat.ofDigitChars_replicate_zero, Nat.mul_zero]
  exact valueOf_decimal n

lemma padded_ne_nil (width n : Nat) : padded width n ≠ [] := by
  simp [padded]

/-- A number that fits is written with exactly as many places as there are. -/
lemma length_padded (hwidth : 0 < width) (h : n < Nat.pow 10 width) :
    (padded width n).length = width := by
  have hfits : (decimal n).length ≤ width :=
    (Nat.length_toDigits_le_iff (by decide) hwidth).mpr h
  rw [padded, List.length_append, List.length_replicate]
  omega

/-- A number that was written with leading zeros is read back. -/
lemma readNumber_of_digits (hdigits : ∀ c ∈ digits, c.isDigit = true) (hne : digits ≠ [])
    (hmost : digits.length ≤ most) (hrest : digits.length = most ∨ NoDigit rest) :
    readNumber most (digits ++ rest) = some (valueOf digits, rest) := by
  obtain ⟨c, digits, rfl⟩ := List.exists_cons_of_ne_nil hne
  rw [readNumber, spanDigits_of_digits hdigits hmost hrest]

end Macrostep.Text
