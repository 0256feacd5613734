/-
# Digits

Decimal numbers written with a least number of places and read from the front of a text.  A number
is read from at most a given number of digits, so that fields of fixed width can be cut from a run
of digits.
-/

namespace Macrostep.Text

/-- The value of a decimal digit. -/
def digitValue (c : Char) : Nat := c.toNat - '0'.toNat

/-- The decimal digits of a number, at least one. -/
def decimal (n : Nat) : List Char := Nat.toDigits 10 n

/-- The decimal digits of a number, filled up with zeros on the left to at least `width` places. -/
def padded (width n : Nat) : List Char :=
  List.replicate (width - (decimal n).length) '0' ++ decimal n

/-- The decimal digits of an integer, after a minus sign if it is negative. -/
def signedDecimal (i : Int) : List Char :=
  if i < 0 then '-' :: decimal i.natAbs else decimal i.natAbs

/-- The longest run of at most `most` digits in front, and what follows it. -/
def spanDigits : Nat → List Char → List Char × List Char
  | 0, cs => ([], cs)
  | _ + 1, [] => ([], [])
  | most + 1, c :: cs =>
    if c.isDigit then
      let (digits, rest) := spanDigits most cs
      (c :: digits, rest)
    else ([], c :: cs)

/-- The number that a run of digits stands for. -/
def valueOf (digits : List Char) : Nat := Nat.ofDigitChars 10 digits 0

/-- Reads a number of at least one and at most `most` digits. -/
def readNumber (most : Nat) (cs : List Char) : Option (Nat × List Char) :=
  match spanDigits most cs with
  | ([], _) => none
  | (digits, rest) => some (valueOf digits, rest)

end Macrostep.Text
