/-
# What is written as a timestamp is read back

The text of a timestamp spells that timestamp (`Time.Timestamp.ofText?_text`), with a year of any
number of digits, with a leap second, and with as many places of the second as were written.
-/
import Macrostep.Proofs.Digits
import Macrostep.Time.Rfc3339

namespace Macrostep.Time

open Text

variable {c : Char} {rest : List Char} {n : Nat}

lemma trimFront_cons (hc : isBlank c = false) (rest : List Char) :
    trimFront (c :: rest) = c :: rest := by
  rw [trimFront, List.dropWhile_cons_of_neg (by simp [hc])]

lemma isBlank_of_isDigit (h : c.isDigit = true) : isBlank c = false := by
  have hrange : 48 ≤ c.toNat ∧ c.toNat ≤ 57 := by
    simp only [Char.isDigit, Bool.and_eq_true, decide_eq_true_eq, ge_iff_le,
      UInt32.le_iff_toNat_le] at h
    exact h
  simp only [isBlank, blankRanges, List.any_cons, List.any_nil, Bool.or_false, Bool.or_eq_false_iff,
    Bool.and_eq_false_iff, decide_eq_false_iff_not]
  omega

/-- A padded number begins with a digit. -/
lemma padded_head (width n : Nat) :
    ∃ c digits, padded width n = c :: digits ∧ c.isDigit = true := by
  obtain ⟨c, digits, hdigits⟩ := List.exists_cons_of_ne_nil (padded_ne_nil width n)
  exact ⟨c, digits, hdigits, isDigit_of_mem_padded (by rw [hdigits]; exact List.mem_cons_self)⟩

lemma trimFront_padded (width n : Nat) (rest : List Char) :
    trimFront (padded width n ++ rest) = padded width n ++ rest := by
  obtain ⟨c, digits, hdigits, hc⟩ := padded_head width n
  rw [hdigits]
  exact trimFront_cons (isBlank_of_isDigit hc) _

lemma readMark_cons (hc : isBlank c = false) (rest : List Char) :
    readMark c (c :: rest) = some rest := by
  rw [readMark, trimFront_cons hc]
  simp

lemma readTwo_padded (h : n < 100) (rest : List Char) :
    readTwo (padded 2 n ++ rest) = some (n, rest) := by
  have hlength : (padded 2 n).length = 2 := length_padded (by decide) h
  rw [readTwo, trimFront_padded, readNumber_of_digits (fun _ => isDigit_of_mem_padded)
    (padded_ne_nil 2 n) (Nat.le_of_eq hlength) (.inl hlength), valueOf_padded]

/-- A year is read back, whatever follows it that is no digit. -/
lemma readYear_text (year : Int) (hrest : NoDigit rest) :
    readYear (yearText year ++ rest) = some (year, rest) := by
  rw [yearText]
  split
  · rename_i h
    have hlength : (padded 4 year.toNat).length = 4 :=
      length_padded (by decide) (show _ < 10000 by omega)
    obtain ⟨c, digits, hdigits, hc⟩ := padded_head 4 year.toNat
    have hminus : c ≠ '-' := by rintro rfl; cases hc
    have hplus : c ≠ '+' := by rintro rfl; cases hc
    have hread : readNumber 4 (padded 4 year.toNat ++ rest) = some (year.toNat, rest) := by
      rw [readNumber_of_digits (fun _ => isDigit_of_mem_padded) (padded_ne_nil 4 year.toNat)
        (Nat.le_of_eq hlength) (.inl hlength), valueOf_padded]
    rw [hdigits] at hread
    have hyear : ((year.toNat : Nat) : Int) = year := by omega
    rw [readYear, trimFront_padded, hdigits]
    rw [List.cons_append] at hread ⊢
    split
    · rename_i heq
      exact absurd (List.cons.inj heq).1 hminus
    · rename_i heq
      exact absurd (List.cons.inj heq).1 hplus
    · simp only [hread, Option.map_some, hyear]
  · have hread : readNumber (padded 4 year.natAbs ++ rest).length (padded 4 year.natAbs ++ rest) =
        some (year.natAbs, rest) := by
      rw [readNumber_of_digits (fun _ => isDigit_of_mem_padded) (padded_ne_nil 4 year.natAbs)
        (by simp) (.inr hrest), valueOf_padded]
    by_cases hneg : year < 0
    · have hyear : -(year.natAbs : Int) = year := by omega
      rw [if_pos hneg, readYear, List.cons_append, trimFront_cons rfl]
      simp only [hread, Option.map_some, hyear]
    · have hyear : (year.natAbs : Int) = year := by omega
      rw [if_neg hneg, readYear, List.cons_append, trimFront_cons rfl]
      simp only [hread, Option.map_some, hyear]

/-- Places of a second are read back with as many zeros as are missing to nine. -/
lemma readFraction_places {width nano : Nat} (hwidth : 0 < width) (hnine : width ≤ 9)
    (h : n < Nat.pow 10 width) (hnano : n * Nat.pow 10 (9 - width) = nano) :
    readFraction ('.' :: padded width n ++ ['Z']) = some (nano, ['Z']) := by
  have hlength := length_padded hwidth h
  have hspan : spanDigits 9 (padded width n ++ ['Z']) = (padded width n, ['Z']) :=
    spanDigits_of_digits (fun _ => isDigit_of_mem_padded) (by omega) (.inr (noDigit_cons rfl []))
  obtain ⟨c, digits, hdigits, -⟩ := padded_head width n
  have hvalue := valueOf_padded width n
  rw [hdigits] at hspan hvalue hlength
  rw [hdigits, List.cons_append, readFraction, hspan]
  simp only [hvalue, hlength, hnano]
  rfl

lemma readFraction_text (h : n < 1000000000) :
    readFraction (fractionText n ++ ['Z']) = some (n, ['Z']) := by
  rw [fractionText]
  split
  · rename_i hzero
    rw [hzero]
    rfl
  split
  · exact readFraction_places (by decide) (by decide) (show n / 1000000 < 1000 by omega)
      (show n / 1000000 * 1000000 = n by omega)
  split
  · exact readFraction_places (by decide) (by decide) (show n / 1000 < 1000000 by omega)
      (show n / 1000 * 1000 = n by omega)
  · exact readFraction_places (by decide) (by decide) h (Nat.mul_one n)

lemma daysInMonth_le (year : Int) (month : Nat) : daysInMonth year month ≤ 31 := by
  have hle : ∀ length ∈ monthLengths year, length ≤ 31 := by
    intro length hmem
    simp only [monthLengths, List.mem_cons, List.not_mem_nil, or_false] at hmem
    split at hmem <;> omega
  rw [daysInMonth]
  cases hlength : (monthLengths year)[month - 1]? with
  | none => simp
  | some length => exact hle length (List.mem_of_getElem? hlength)

/-- A timestamp is the one that its text spells. -/
theorem Timestamp.ofText?_text (t : Timestamp) : Timestamp.ofText? t.text = some t := by
  obtain ⟨⟨year, month, day, hdate⟩, hour, minute, second, nano, htime⟩ := t
  have hdays := daysInMonth_le year month
  obtain ⟨-, -, -, hmonth, -, hday⟩ := id hdate
  obtain ⟨hhour, hminute, hsecond, hnano⟩ := id htime
  have hparts : Date.ofParts? year month day = some ⟨year, month, day, hdate⟩ := dif_pos hdate
  have htimes : Timestamp.ofParts? ⟨year, month, day, hdate⟩ hour minute second nano =
      some ⟨⟨year, month, day, hdate⟩, hour, minute, second, nano, htime⟩ := dif_pos htime
  have hminus : isBlank '-' = false := by decide
  have hcolon : isBlank ':' = false := by decide
  have htext : Timestamp.text ⟨⟨year, month, day, hdate⟩, hour, minute, second, nano, htime⟩ =
      yearText year ++ '-' :: (padded 2 month ++ '-' :: (padded 2 day ++ 'T' ::
        (padded 2 hour ++ ':' :: (padded 2 minute ++ ':' :: (padded 2 second ++
          (fractionText nano ++ ['Z'])))))) := by
    simp [Timestamp.text]
  rw [htext, Timestamp.ofText?]
  -- one step for each part of the text, in order
  refine Option.bind_eq_some_iff.mpr ⟨_, readYear_text year (noDigit_cons rfl _), ?_⟩
  refine Option.bind_eq_some_iff.mpr ⟨_, readMark_cons hminus _, ?_⟩
  refine Option.bind_eq_some_iff.mpr ⟨_, readTwo_padded (by omega) _, ?_⟩
  refine Option.bind_eq_some_iff.mpr ⟨_, readMark_cons hminus _, ?_⟩
  refine Option.bind_eq_some_iff.mpr ⟨_, readTwo_padded (by omega) _, ?_⟩
  refine Option.bind_eq_some_iff.mpr ⟨_, rfl, ?_⟩
  refine Option.bind_eq_some_iff.mpr ⟨_, readTwo_padded (by omega) _, ?_⟩
  refine Option.bind_eq_some_iff.mpr ⟨_, readMark_cons hcolon _, ?_⟩
  refine Option.bind_eq_some_iff.mpr ⟨_, readTwo_padded (by omega) _, ?_⟩
  refine Option.bind_eq_some_iff.mpr ⟨_, readMark_cons hcolon _, ?_⟩
  refine Option.bind_eq_some_iff.mpr ⟨_, readTwo_padded (by omega) _, ?_⟩
  refine Option.bind_eq_some_iff.mpr ⟨_, readFraction_text hnano, ?_⟩
  refine Option.bind_eq_some_iff.mpr ⟨(0, []), rfl, ?_⟩
  refine Option.bind_eq_some_iff.mpr ⟨_, hparts, ?_⟩
  refine Option.bind_eq_some_iff.mpr ⟨_, htimes, ?_⟩
  rfl

end Macrostep.Time
