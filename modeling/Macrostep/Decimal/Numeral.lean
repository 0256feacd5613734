/-
# Numerals

A number as it is spelled: digits before and after a point, and an exponent.
-/
import Macrostep.Decimal.Binary64
import Macrostep.Text.Digits

namespace Macrostep.Decimal

open Text

/-- A power of ten as it is spelled. -/
structure Exponent where
  /-- The power. -/
  value : Int
  /-- Whether a plus sign stands in front. -/
  plus : Bool := false
deriving DecidableEq

/-- A power of ten as it is written. -/
def Exponent.text (e : Exponent) : List Char :=
  (if e.plus then ['+'] else []) ++ signedDecimal e.value

/-- A number as it is spelled. -/
structure Numeral where
  /-- Whether a minus sign stands in front. -/
  negative : Bool := false
  /-- The digits before the point. -/
  whole : List Char
  /-- The digits after the point, if there is a point. -/
  places : Option (List Char) := none
  /-- The power of ten, if one is given. -/
  exponent : Option Exponent := none
deriving DecidableEq

namespace Numeral

/-- The numeral of an integer. -/
def ofInt (i : Int) : Numeral := { negative := i < 0, whole := decimal i.natAbs }

/-- A numeral as it is written. -/
def text (n : Numeral) : List Char :=
  (if n.negative then ['-'] else []) ++ n.whole ++
    (match n.places with
      | some digits => '.' :: digits
      | none => []) ++
    match n.exponent with
    | some e => 'e' :: e.text
    | none => []

/-- The integer that a numeral spells without point and exponent; `-0` is none. -/
def toInt? (n : Numeral) : Option Int :=
  match n.places, n.exponent with
  | none, none =>
    let value := valueOf n.whole
    if n.negative then if value = 0 then none else some (-(value : Int)) else some value
  | _, _ => none

/-- The power of ten that the digits are multiplied with; zero if none is given. -/
def power (n : Numeral) : Int := (n.exponent.map Exponent.value).getD 0

/-- The float nearest to the number. -/
def nearest (n : Numeral) : Binary64 :=
  let places := n.places.getD []
  (Binary64.nearestDecimal (valueOf (n.whole ++ places))
    (n.power - places.length)).withSign n.negative

end Numeral

end Macrostep.Decimal
