/-
# Reading decimal numbers

The numbers that people type: a sign, digits with a point on either side or between them, an
exponent, or one of the words `inf`, `infinity` and `nan` in any case.  The float that is nearest to
the number is meant.
-/
import Macrostep.Decimal.Numeral

namespace Macrostep.Decimal

open Text

/-- All digits in front. -/
def digitsOf (cs : List Char) : List Char × List Char := spanDigits cs.length cs

/-- Reads an exponent after its mark: a sign and at least one digit. -/
def readExponent? (cs : List Char) : Option (Exponent × List Char) :=
  let (sign, cs) := match cs with
    | '+' :: rest => (some '+', rest)
    | '-' :: rest => (some '-', rest)
    | rest => (none, rest)
  match digitsOf cs with
  | ([], _) => none
  | (digits, rest) =>
    let size : Int := valueOf digits
    some (⟨if sign = some '-' then -size else size, sign = some '+'⟩, rest)

/-- Reads unsigned numerals to the end of the text; there must be a digit beside the point. -/
def readNumerals? (negative : Bool) (cs : List Char) : Option Numeral := do
  let (whole, cs) := digitsOf cs
  let (places, cs) := match cs with
    | '.' :: rest => digitsOf rest
    | rest => ([], rest)
  if whole.isEmpty && places.isEmpty then none
  else match cs with
    | [] => some { negative, whole, places := some places }
    | c :: rest =>
      if c = 'e' || c = 'E' then
        match readExponent? rest with
        | some (e, []) => some { negative, whole, places := some places, exponent := some e }
        | _ => none
      else none

/-- Reads an unsigned number. -/
def readMagnitude? (negative : Bool) (cs : List Char) : Option Binary64 :=
  let word := String.ofList (cs.map Char.toLower)
  if word = "inf" ∨ word = "infinity" then some (Binary64.infinity.withSign negative)
  else if word = "nan" then some (Binary64.nan.withSign negative)
  else (readNumerals? negative cs).map Numeral.nearest

/-- The float that a text spells. -/
def readFloat? (cs : List Char) : Option Binary64 :=
  match cs with
  | '-' :: rest => readMagnitude? true rest
  | '+' :: rest => readMagnitude? false rest
  | rest => readMagnitude? false rest

end Macrostep.Decimal
