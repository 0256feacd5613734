/-
# Binary floating point numbers

A float of 64 bits, known by its bits.  A finite one is a whole number of at most 53 bits times a
power of two.  This file takes a float apart in that form, finds the float nearest to a quotient of
whole numbers (half way between two floats the one with the even significand is meant), and does
arithmetic.
-/

namespace Macrostep.Decimal

/-- A float, by its bits. -/
structure Binary64 where
  /-- The sign bit, the eleven bits of the exponent and the 52 bits of the fraction. -/
  bits : UInt64
deriving DecidableEq

/-- A finite float: `significand * 2 ^ exponent`, negated if `negative`. -/
structure Parts where
  /-- Whether the sign bit is set. -/
  negative : Bool
  /-- The significand, below `2 ^ 53`. -/
  significand : Nat
  /-- The exponent, at least `-1074`. -/
  exponent : Int
deriving DecidableEq

/-- The quotient of two whole numbers, rounded to the nearest; a half goes to the even one. -/
def roundDiv (num den : Nat) : Nat :=
  let quotient := num / den
  let rest := 2 * (num % den)
  if rest < den ∨ (rest = den ∧ quotient % 2 = 0) then quotient else quotient + 1

/-- `num / den` divided by `2 ^ exponent`, rounded to the nearest whole number. -/
def roundAt (num den : Nat) (exponent : Int) : Nat :=
  if exponent < 0 then roundDiv (num * Nat.pow 2 exponent.natAbs) den
  else roundDiv num (den * Nat.pow 2 exponent.natAbs)

/-- The exponent that the float nearest to `num / den` has: the quotient divided by its power of
two has 53 bits, unless the exponent is the least one. -/
def exponentFor (num den : Nat) : Int :=
  let guess : Int := (num.log2 : Int) - den.log2 - 53
  let isSmall :=
    if guess < 0 then num * Nat.pow 2 guess.natAbs < den * Nat.pow 2 53
    else num < den * Nat.pow 2 (guess.natAbs + 53)
  max (if isSmall then guess else guess + 1) (-1074)

namespace Binary64

/-- The exponent field. -/
def field (x : Binary64) : Nat := x.bits.toNat / Nat.pow 2 52 % 2048

/-- The fraction field. -/
def fraction (x : Binary64) : Nat := x.bits.toNat % Nat.pow 2 52

/-- Whether the sign bit is set. -/
def isNegative (x : Binary64) : Bool := x.bits.toNat / Nat.pow 2 63 == 1

/-- Whether the bits stand for no number. -/
def isNaN (x : Binary64) : Bool := x.field == 2047 && x.fraction != 0

/-- Whether the bits stand for an infinity. -/
def isInfinite (x : Binary64) : Bool := x.field == 2047 && x.fraction == 0

/-- The parts of a finite float. -/
def parts? (x : Binary64) : Option Parts :=
  if x.field = 2047 then none
  else if x.field = 0 then some ⟨x.isNegative, x.fraction, -1074⟩
  else some ⟨x.isNegative, x.fraction + Nat.pow 2 52, (x.field : Int) - 1075⟩

/-- Positive zero. -/
def zero : Binary64 := ⟨0⟩

/-- Positive infinity. -/
def infinity : Binary64 := ⟨0x7FF0000000000000⟩

/-- What is no number, as it is read from a text. -/
def nan : Binary64 := ⟨0x7FF8000000000000⟩

/-- The float with the other sign. -/
def neg (x : Binary64) : Binary64 := ⟨x.bits ^^^ 0x8000000000000000⟩

/-- The float, negated if asked for. -/
def withSign (negative : Bool) (x : Binary64) : Binary64 := if negative then x.neg else x

/-- The float nearest to `num / den`, for a positive `den`. -/
def nearest (num den : Nat) : Binary64 :=
  if num = 0 then zero
  else
    let exponent := exponentFor num den
    let bits := (exponent + 1074).toNat * Nat.pow 2 52 + roundAt num den exponent
    if bits < 2047 * Nat.pow 2 52 then ⟨UInt64.ofNat bits⟩ else infinity

/-- The float nearest to `significand * 10 ^ exponent`. -/
def nearestDecimal (significand : Nat) (exponent : Int) : Binary64 :=
  let places : Int := (Nat.toDigits 10 significand).length
  if significand = 0 ∨ places + exponent < -400 then zero
  else if 400 < places + exponent then infinity
  else if exponent < 0 then nearest significand (Nat.pow 10 exponent.natAbs)
  else nearest (significand * Nat.pow 10 exponent.natAbs) 1

/-- The value of a float as a fraction, its sign left out; zero over one if it is not finite. -/
def ratio (x : Binary64) : Nat × Nat :=
  match x.parts? with
  | some p => (p.significand * Nat.pow 2 p.exponent.toNat, Nat.pow 2 (-p.exponent).toNat)
  | none => (0, 1)

/-! ## Arithmetic

Sums, products and quotients are rounded to the nearest float.  A result that is no number has the
bits of the first operand that is none, made quiet; if both operands are numbers, it is the quiet
one with its sign bit set. -/

/-- What is no number, with the first bit of its fraction set. -/
def quiet (x : Binary64) : Binary64 := ⟨x.bits ||| 0x0008000000000000⟩

/-- The number that the bits stand for. -/
def toFloat (x : Binary64) : Float := Float.ofBits x.bits

/-- The bits of a number; what is no number has its sign bit set. -/
def ofFloat (x : Float) : Binary64 := if x.isNaN then nan.neg else ⟨x.toBits⟩

/-- An operation on one float. -/
def lift (f : Float → Float) (a : Binary64) : Binary64 :=
  if a.isNaN then a.quiet else ofFloat (f a.toFloat)

/-- An operation on two floats. -/
def lift₂ (f : Float → Float → Float) (a b : Binary64) : Binary64 :=
  if a.isNaN then a.quiet else if b.isNaN then b.quiet else ofFloat (f a.toFloat b.toFloat)

instance : Add Binary64 := ⟨lift₂ (· + ·)⟩
instance : Sub Binary64 := ⟨lift₂ (· - ·)⟩
instance : Mul Binary64 := ⟨lift₂ (· * ·)⟩
instance : Div Binary64 := ⟨lift₂ (· / ·)⟩
instance (n : Nat) : OfNat Binary64 n := ⟨nearest n 1⟩

/-- The nearest whole number; a half goes away from zero. -/
def round (a : Binary64) : Binary64 := a.lift Float.round

/-- Whether one number is less than another. -/
def less (a b : Binary64) : Bool := a.toFloat < b.toFloat

/-- Whether one number is less than or equal to another. -/
def atMost (a b : Binary64) : Bool := a.toFloat ≤ b.toFloat

end Binary64

end Macrostep.Decimal
