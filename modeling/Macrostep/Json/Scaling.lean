/-
# Floats in JSON texts

A number is read as a float in two steps, each rounded by itself: a significand of at most 64 bits,
and its product with or quotient by a power of ten.  Digits that do not fit into the significand are
dropped; those before the point still count for the power of ten.  The result is not always the
float nearest to the number, and a number that exceeds the largest float is refused.
-/
import Macrostep.Json.Basic

namespace Macrostep.Json

open Decimal Text

/-- The digits of a number that have been read. -/
structure Significand where
  /-- The digits that count, as one number below `2 ^ 64`. -/
  value : Nat := 0
  /-- The power of ten that it is to be multiplied with. -/
  exponent : Int := 0

namespace Significand

/-- Whether another digit fits. -/
def fits (s : Significand) (digit : Char) : Bool := s.value * 10 + digitValue digit < UInt64.size

/-- Reads the digits before the point; from the first one that does not fit they only move the
point. -/
def readWhole (s : Significand) : List Char → Significand
  | [] => s
  | digit :: rest =>
    if s.fits digit then readWhole { s with value := s.value * 10 + digitValue digit } rest
    else { s with exponent := s.exponent + (rest.length + 1 : Nat) }

/-- Reads the digits after the point up to the first one that does not fit. -/
def readPlaces (s : Significand) : List Char → Significand
  | [] => s
  | digit :: rest =>
    if s.fits digit then readPlaces ⟨s.value * 10 + digitValue digit, s.exponent - 1⟩ rest else s

end Significand

/-- The float nearest to a power of ten. -/
def powerOfTen (n : Nat) : Binary64 := Binary64.nearest (Nat.pow 10 n) 1

/-- A positive float multiplied with a power of ten: the power and the product are rounded.  Below
the range of powers that are floats it is divided by `10 ^ 308` first, at most `steps` times. -/
def scale (x : Binary64) (exponent : Int) : Nat → Option Binary64
  | 0 => some .zero
  | steps + 1 =>
    let (num, den) := x.ratio
    if exponent.natAbs ≤ 308 then
      let (powNum, powDen) := (powerOfTen exponent.natAbs).ratio
      if 0 ≤ exponent then
        let product := Binary64.nearest (num * powNum) (den * powDen)
        if product.isInfinite then none else some product
      else some (Binary64.nearest (num * powDen) (den * powNum))
    else if num = 0 then some x
    else if 0 ≤ exponent then none
    else
      let (powNum, powDen) := (powerOfTen 308).ratio
      scale (Binary64.nearest (num * powDen) (den * powNum)) (exponent + 308) steps

/-- The float that a numeral stands for, unless it exceeds the largest one.  Two divisions by
`10 ^ 308` leave nothing of a significand. -/
def floatOf? (n : Numeral) : Option Binary64 :=
  let s := (Significand.readWhole {} n.whole).readPlaces (n.places.getD [])
  (scale (Binary64.nearest s.value 1) (s.exponent + n.power) 3).map
    (Binary64.withSign n.negative)

end Macrostep.Json
