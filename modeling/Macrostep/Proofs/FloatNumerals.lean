/-
# The numerals of floats

A float is set as a numeral that the reader of JSON accepts (`Decimal.wellFormed_numeral?`), in
whatever layout: the digits of the shortest decimal number that is read back as the float do not
begin with a zero, unless there is only one.  So floats can be spelled in JSON; what they are read
back as is another question.
-/
import Macrostep.Proofs.Lossless

namespace Macrostep.Decimal

open Text Json

/-! ## Digits of the shortest number -/

lemma low_pos {significand : Nat} (h : significand ≠ 0) (exponent : Int) :
    0 < (spanOf significand exponent).low := by
  have hscale : 0 < Nat.pow 2 (exponent - 2).toNat := Nat.pow_pos (by decide)
  refine Nat.mul_pos ?_ hscale
  split <;> omega

/-- Zero is not among the numbers that are read back as a float that is not zero. -/
lemma ne_zero_of_has {s : Span} (hlow : 0 < s.low) {digits : Nat} {exponent : Int}
    (h : s.has digits exponent = true) : digits ≠ 0 := by
  rintro rfl
  have hpos : 0 < s.low * Nat.pow 10 (-exponent).toNat :=
    Nat.mul_pos hlow (Nat.pow_pos (by decide))
  rw [Span.has] at h
  simp only [Nat.zero_mul] at h
  split at h
  · simp only [Bool.and_eq_true, decide_eq_true_eq] at h
    omega
  · simp only [Bool.and_eq_true, decide_eq_true_eq] at h
    omega

lemma ne_zero_of_nearest? {s : Span} (hlow : 0 < s.low) {tie : Tie} {exponent : Int}
    {digits : Nat} (h : s.nearest? tie exponent = some digits) : digits ≠ 0 := by
  rw [Span.nearest?] at h
  dsimp only at h
  split at h
  · rename_i hbelow habove
    obtain rfl := Option.some.inj h
    split
    · exact Nat.succ_ne_zero _
    · exact ne_zero_of_has hlow hbelow
  · rename_i hbelow habove
    obtain rfl := Option.some.inj h
    exact ne_zero_of_has hlow hbelow
  · obtain rfl := Option.some.inj h
    exact Nat.succ_ne_zero _
  · cases h

lemma reduced_ne_zero {s : Scaled} (h : s.digits ≠ 0) (fuel : Nat) :
    (s.reduced fuel).digits ≠ 0 := by
  induction fuel generalizing s with
  | zero => exact h
  | succ fuel ih =>
    rw [Scaled.reduced]
    split
    · rename_i hzeros
      exact ih (by simp only; omega)
    · exact h

/-- A decimal number that has no zeros at its end but the one it may consist of. -/
def Scaled.IsPlain (s : Scaled) : Prop := s.digits = 0 → s.exponent = 0

lemma isPlain_shortest (tie : Tie) {significand : Nat} (h : significand ≠ 0) (exponent : Int) :
    (shortest tie significand exponent).IsPlain := by
  rw [shortest]
  generalize hfound : List.findSome? _ _ = found
  cases found with
  | none => exact fun _ => rfl
  | some s =>
    obtain ⟨n, -, hnearest⟩ := List.exists_of_findSome?_eq_some hfound
    obtain ⟨digits, hdigits, rfl⟩ := Option.map_eq_some_iff.mp hnearest
    have hne : digits ≠ 0 := ne_zero_of_nearest? (low_pos h exponent) hdigits
    exact fun hzero => absurd hzero (reduced_ne_zero hne 18)

/-! ## Setting the digits -/

lemma isDigit_of_mem_zeros {c : Char} {n : Nat} (h : c ∈ List.replicate n '0') :
    c.isDigit = true := by
  rw [List.eq_of_mem_replicate h]
  rfl

lemma isDigit_of_mem_zero {c : Char} (h : c ∈ ['0']) : c.isDigit = true := by
  rw [List.mem_singleton.mp h]
  rfl

/-- Digits that begin with a zero are the zero alone. -/
lemma decimal_of_head?_zero {n : Nat} (h : (decimal n).head? = some '0') : n = 0 :=
  Decidable.byContradiction fun hne => head?_decimal_ne hne h

section

variable {digits : List Char}

/-- A whole number, with the zeros that its power of ten stands for. -/
lemma wellFormed_whole (hall : ∀ c ∈ digits, c.isDigit = true) (hne : digits ≠ []) {zeros : Nat}
    (hzero : digits.head? = some '0' → digits = ['0'] ∧ zeros = 0) :
    WellFormed { whole := digits ++ List.replicate zeros '0', places := some ['0'] } where
  digits c hc := (List.mem_append.mp hc).elim (hall c) isDigit_of_mem_zeros
  some_digit := by simp [hne]
  no_idle_zero hhead := by
    have hfirst : digits.head? = some '0' := by
      obtain ⟨c, rest, rfl⟩ := List.exists_cons_of_ne_nil hne
      exact hhead
    obtain ⟨hdigits, hzeros⟩ := hzero hfirst
    simp [hdigits, hzeros]
  places := by
    rintro _ ⟨⟩
    exact ⟨by simp, fun _ => isDigit_of_mem_zero⟩
  exponent := nofun

/-- The point stands among the digits. -/
lemma wellFormed_among (hall : ∀ c ∈ digits, c.isDigit = true) {point : Nat} (hfirst : 0 < point)
    (hlast : point < digits.length) (hhead : digits.head? ≠ some '0') :
    WellFormed { whole := digits.take point, places := some (digits.drop point) } where
  digits c hc := hall c (List.mem_of_mem_take hc)
  some_digit := List.ne_nil_of_length_pos (by rw [List.length_take]; omega)
  no_idle_zero hzero := by
    rw [List.head?_take, if_neg (by omega)] at hzero
    exact absurd hzero hhead
  places := by
    rintro _ ⟨⟩
    refine ⟨List.ne_nil_of_length_pos ?_, fun c hc => hall c (List.mem_of_mem_drop hc)⟩
    rw [List.length_drop]
    omega
  exponent := nofun

/-- The point stands before the digits. -/
lemma wellFormed_before (hall : ∀ c ∈ digits, c.isDigit = true) (hne : digits ≠ [])
    (zeros : Nat) :
    WellFormed { whole := ['0'], places := some (List.replicate zeros '0' ++ digits) } where
  digits _ := isDigit_of_mem_zero
  some_digit := by simp
  no_idle_zero _ := rfl
  places := by
    rintro _ ⟨⟩
    refine ⟨by simp [hne], fun c hc => ?_⟩
    exact (List.mem_append.mp hc).elim isDigit_of_mem_zeros (hall c)
  exponent := nofun

/-- The first digit stands before the point, and a power of ten behind the digits. -/
lemma wellFormed_power (hall : ∀ c ∈ digits, c.isDigit = true) (hne : digits ≠ [])
    {power : Exponent} (hplus : power.plus = true → 0 ≤ power.value) :
    WellFormed
      { whole := digits.take 1
        places := if digits.length = 1 then none else some (digits.drop 1)
        exponent := some power } := by
  obtain ⟨c, rest, rfl⟩ := List.exists_cons_of_ne_nil hne
  refine ⟨fun d hd => hall d (List.mem_of_mem_take hd), by simp, ?_, ?_, ?_⟩
  · intro hhead
    obtain rfl := Option.some.inj hhead
    rfl
  · intro ds hds
    split at hds
    · cases hds
    · rename_i hone
      obtain rfl := Option.some.inj hds
      refine ⟨?_, fun d hd => hall d (List.mem_of_mem_drop hd)⟩
      rintro rfl
      exact hone rfl
  · rintro _ ⟨⟩
    exact hplus

end

/-- A decimal number is set as a numeral that can be read. -/
lemma wellFormed_set (layout : Layout) {number : Scaled} (h : number.IsPlain) :
    WellFormed (layout.set number) := by
  have hall : ∀ c ∈ decimal number.digits, c.isDigit = true := fun _ => isDigit_of_mem_decimal
  have hne := decimal_ne_nil number.digits
  have hzero (hhead : (decimal number.digits).head? = some '0') : number.exponent = 0 :=
    h (decimal_of_head?_zero hhead)
  rw [Layout.set]
  split
  · split
    · refine wellFormed_whole hall hne fun hhead => ?_
      rw [decimal_of_head?_zero hhead, hzero hhead]
      exact ⟨decimal_zero, rfl⟩
    split
    · refine wellFormed_among hall (by omega) (by omega) fun hhead => ?_
      have := hzero hhead
      omega
    · exact wellFormed_before hall hne _
  · refine wellFormed_power hall hne fun hplus => ?_
    simp only [Bool.and_eq_true, decide_eq_true_eq] at hplus
    exact Int.sub_nonneg_of_le hplus.2

/-- A float is set as a numeral that the reader of JSON accepts. -/
theorem wellFormed_numeral? (layout : Layout) {x : Binary64} {numeral : Numeral}
    (h : layout.numeral? x = some numeral) : WellFormed numeral := by
  obtain ⟨parts, -, rfl⟩ := Option.map_eq_some_iff.mp h
  have hmagnitude : WellFormed
      (if parts.significand = 0 then { whole := ['0'], places := some ['0'] }
        else layout.set (shortest layout.tie parts.significand parts.exponent)) := by
    split
    · refine ⟨fun _ => isDigit_of_mem_zero, by simp, fun _ => rfl, ?_, nofun⟩
      rintro _ ⟨⟩
      exact ⟨by simp, fun _ => isDigit_of_mem_zero⟩
    · rename_i hne
      exact wellFormed_set layout (isPlain_shortest layout.tie hne parts.exponent)
  exact ⟨hmagnitude.digits, hmagnitude.some_digit, hmagnitude.no_idle_zero, hmagnitude.places,
    hmagnitude.exponent⟩

end Macrostep.Decimal
