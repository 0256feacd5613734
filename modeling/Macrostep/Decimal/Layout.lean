/-
# Layout of floats

How the digits of a float are set: with a point in its place, or as one digit, the further ones
after a point, and a power of ten.  The two layouts that occur here differ in where the one form
ends and the other begins, in what becomes of ties, and in the sign of the power.
-/
import Macrostep.Decimal.Numeral
import Macrostep.Decimal.Shortest

namespace Macrostep.Decimal

open Text

/-- A layout.  Numbers are set with a point in its place if the point stands at least `least` and at
most `most` places after the place before the first digit. -/
structure Layout where
  /-- The least position of the point. -/
  least : Int
  /-- The greatest position of the point. -/
  most : Int
  /-- Which of two equally near numbers with the fewest digits is set. -/
  tie : Tie
  /-- Whether a plus sign stands before a power of ten that is not negative. -/
  plus : Bool

namespace Layout

/-- Numbers in JSON texts have a point in its place from 0.00001 to below 10^16, and a sign before
every power of ten; of two equally near ones the one with an even last digit is set. -/
def json : Layout := ⟨-4, 16, .even, true⟩

/-- Numbers in descriptions of values have a point in its place from 0.0001 to below 10^16, and a
sign only before negative powers of ten; of two equally near ones the greater is set. -/
def description : Layout := ⟨-3, 16, .up, false⟩

/-- The numeral of a positive decimal number.  A whole number keeps one zero after the point. -/
def set (layout : Layout) (number : Scaled) : Numeral :=
  let digits := decimal number.digits
  let point : Int := digits.length + number.exponent
  if layout.least ≤ point ∧ point ≤ layout.most then
    if 0 ≤ number.exponent then
      { whole := digits ++ List.replicate number.exponent.toNat '0', places := some ['0'] }
    else if 0 < point then
      { whole := digits.take point.toNat, places := some (digits.drop point.toNat) }
    else { whole := ['0'], places := some (List.replicate (-point).toNat '0' ++ digits) }
  else
    { whole := digits.take 1
      places := if digits.length = 1 then none else some (digits.drop 1)
      exponent := some ⟨point - 1, layout.plus && decide (1 ≤ point)⟩ }

/-- The numeral of a finite float; `none` for an infinity and for what is no number. -/
def numeral? (layout : Layout) (x : Binary64) : Option Numeral :=
  x.parts?.map fun parts =>
    let magnitude :=
      if parts.significand = 0 then { whole := ['0'], places := some ['0'] }
      else layout.set (shortest layout.tie parts.significand parts.exponent)
    { magnitude with negative := parts.negative }

end Layout

/-- A float as descriptions of values show it. -/
def Binary64.describe (x : Binary64) : String :=
  match Layout.description.numeral? x with
  | some numeral => String.ofList numeral.text
  | none => if x.isNaN then "NaN" else if x.isNegative then "-inf" else "inf"

end Macrostep.Decimal
