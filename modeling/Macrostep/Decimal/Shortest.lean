/-
# Shortest decimal texts of floats

Among the decimal numbers that are read back as a given float, the one with the fewest digits is
written, and of those with the fewest digits the nearest; the caller says which one is meant if two
are equally near.  For 1, 2, ... digits the two neighbours
of the float on that decimal grid are tried: if a point of the grid lies among the numbers that are
read back as the float, one of the two neighbours does.
-/
import Macrostep.Decimal.Binary64

namespace Macrostep.Decimal

/-- A decimal number: `digits * 10 ^ exponent`. -/
structure Scaled where
  /-- The digits, as one number. -/
  digits : Nat
  /-- The power of ten that they are multiplied with. -/
  exponent : Int
deriving DecidableEq

/-- The numbers that are read back as a float, as fractions with one denominator: all between `low`
and `high`, ends included if `closed`. -/
structure Span where
  /-- The lower end. -/
  low : Nat
  /-- The float. -/
  value : Nat
  /-- The upper end. -/
  high : Nat
  /-- The common denominator. -/
  den : Nat
  /-- Whether the ends belong to it. -/
  closed : Bool

/-- The numbers that are read back as `significand * 2 ^ exponent`: up to half of the distance to
the neighbours, and the half itself if the significand is even.  The lower neighbour of a power of
two is only half as far away. -/
def spanOf (significand : Nat) (exponent : Int) : Span :=
  let scale := Nat.pow 2 (exponent - 2).toNat
  let below := if significand = Nat.pow 2 52 ∧ -1074 < exponent then 1 else 2
  { low := (4 * significand - below) * scale
    value := 4 * significand * scale
    high := (4 * significand + 2) * scale
    den := Nat.pow 2 (2 - exponent).toNat
    closed := significand % 2 == 0 }

/-- Which of two neighbours is meant if both are equally near. -/
inductive Tie
  /-- The even one. -/
  | even
  /-- The greater one. -/
  | up

/-- Whether the greater one of two equally near neighbours is meant. -/
def Tie.goesUp (tie : Tie) (below : Nat) : Bool :=
  match tie with
  | even => below % 2 == 1
  | up => true

namespace Span

/-- The decimal exponent of the float: `10 ^ e ≤ value / den < 10 ^ (e + 1)`. -/
def decimalExponent (s : Span) : Int :=
  let guess : Int := ((Nat.toDigits 10 s.value).length : Int) - (Nat.toDigits 10 s.den).length
  let reached :=
    if guess < 0 then s.den ≤ s.value * Nat.pow 10 guess.natAbs
    else s.den * Nat.pow 10 guess.natAbs ≤ s.value
  if reached then guess else guess - 1

/-- Whether `digits * 10 ^ exponent` lies within the span. -/
def has (s : Span) (digits : Nat) (exponent : Int) : Bool :=
  let point := digits * Nat.pow 10 exponent.toNat * s.den
  let low := s.low * Nat.pow 10 (-exponent).toNat
  let high := s.high * Nat.pow 10 (-exponent).toNat
  if s.closed then low ≤ point && point ≤ high else low < point && point < high

/-- The nearest of the two neighbours on the grid of `10 ^ exponent` that lie within the span. -/
def nearest? (s : Span) (tie : Tie) (exponent : Int) : Option Nat :=
  let num := s.value * Nat.pow 10 (-exponent).toNat
  let den := s.den * Nat.pow 10 exponent.toNat
  let below := num / den
  let rest := 2 * (num % den)
  match s.has below exponent, s.has (below + 1) exponent with
  | true, true =>
    let goesUp := den < rest || (rest == den && tie.goesUp below)
    some (if goesUp then below + 1 else below)
  | true, false => some below
  | false, true => some (below + 1)
  | false, false => none

end Span

/-- A decimal number without zeros at its end, for at most `fuel` of them. -/
def Scaled.reduced : Nat → Scaled → Scaled
  | 0, s => s
  | fuel + 1, s =>
    if s.digits ≠ 0 ∧ s.digits % 10 = 0 then reduced fuel ⟨s.digits / 10, s.exponent + 1⟩ else s

/-- The shortest decimal number that is read back as a positive float. -/
def shortest (tie : Tie) (significand : Nat) (exponent : Int) : Scaled :=
  let span := spanOf significand exponent
  let top := span.decimalExponent
  let found := (List.range 17).findSome? fun (n : Nat) =>
    (span.nearest? tie (top - n)).map fun digits => (⟨digits, top - n⟩ : Scaled)
  (found.getD ⟨0, 0⟩).reduced 18

end Macrostep.Decimal
