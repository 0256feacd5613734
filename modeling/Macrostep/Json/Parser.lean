/-
# Reading JSON

A reader by recursive descent.  Each part takes what it reads from the front of the text and leaves
the rest.  The whole reader takes a number of steps that bounds the depth of its calls; the length
of the text is enough, since every call but the last consumes a character.
-/
import Macrostep.Decimal.Reading
import Macrostep.Json.Basic

namespace Macrostep.Json

open Decimal Text

/-- Whether a character may stand between the parts of a text. -/
def isGap (c : Char) : Bool := c = ' ' || c = '\n' || c = '\t' || c = '\r'

/-- The text after the gap in front. -/
def skipGap (cs : List Char) : List Char := cs.dropWhile isGap

/-- The value of a hexadecimal digit. -/
def hexValue? (c : Char) : Option Nat :=
  if c.isDigit then some (c.toNat - '0'.toNat)
  else if 'a' ≤ c ∧ c ≤ 'f' then some (c.toNat - 'a'.toNat + 10)
  else if 'A' ≤ c ∧ c ≤ 'F' then some (c.toNat - 'A'.toNat + 10)
  else none

/-- Reads four hexadecimal digits. -/
def readHex4? : List Char → Option (Nat × List Char)
  | a :: b :: c :: d :: rest => do
    let a ← hexValue? a
    let b ← hexValue? b
    let c ← hexValue? c
    let d ← hexValue? d
    some (((a * 16 + b) * 16 + c) * 16 + d, rest)
  | _ => none

/-- A piece of a string literal: a character, or a 16-bit unit that an escape names. -/
inductive Piece
  | char (c : Char)
  | unit (value : Nat)

/-- The character that the letter of a short escape stands for. -/
def shortEscape? (c : Char) : Option Char :=
  [('"', '"'), ('\\', '\\'), ('/', '/'), ('b', '\x08'), ('f', '\x0c'), ('n', '\n'), ('r', '\r'),
    ('t', '\t')].lookup c

/-- Reads the pieces of a string literal up to its closing quote. -/
def readPieces : Nat → List Char → Option (List Piece × List Char)
  | 0, _ => none
  | _ + 1, [] => none
  | steps + 1, c :: cs =>
    if c = '"' then some ([], cs)
    else if c = '\\' then
      match cs with
      | [] => none
      | e :: cs =>
        if e = 'u' then do
          let (value, cs) ← readHex4? cs
          let (pieces, cs) ← readPieces steps cs
          some (.unit value :: pieces, cs)
        else do
          let c ← shortEscape? e
          let (pieces, cs) ← readPieces steps cs
          some (.char c :: pieces, cs)
    else if c.toNat < 0x20 then none
    else do
      let (pieces, cs) ← readPieces steps cs
      some (.char c :: pieces, cs)

/-- The text that pieces spell.  Two surrogates in a row make up one character; a surrogate without
its partner spells nothing. -/
def spell? : List Piece → Option (List Char)
  | [] => some []
  | .char c :: rest => (spell? rest).map (c :: ·)
  | .unit high :: .unit low :: rest =>
    if 0xD800 ≤ high ∧ high < 0xDC00 then
      if 0xDC00 ≤ low ∧ low < 0xE000 then
        (spell? rest).map (Char.ofNat (0x10000 + (high - 0xD800) * 0x400 + (low - 0xDC00)) :: ·)
      else none
    else if 0xDC00 ≤ high ∧ high < 0xE000 then none
    else (spell? (.unit low :: rest)).map (Char.ofNat high :: ·)
  | .unit value :: rest =>
    if 0xD800 ≤ value ∧ value < 0xE000 then none
    else (spell? rest).map (Char.ofNat value :: ·)

/-- Reads a string literal after its opening quote. -/
def readString? (cs : List Char) : Option (Option String × List Char) :=
  (readPieces (cs.length + 1) cs).map fun (pieces, rest) =>
    ((spell? pieces).map String.ofList, rest)

/-- Reads the digits before the point: one zero, or digits that do not begin with a zero. -/
def readWhole? (cs : List Char) : Option (List Char × List Char) :=
  match digitsOf cs with
  | ([], _) => none
  | (['0'], rest) => some (['0'], rest)
  | (digits, rest) => if digits.head? = some '0' then none else some (digits, rest)

/-- Reads the digits after the point, if there is a point. -/
def readPlaces? : List Char → Option (Option (List Char) × List Char)
  | '.' :: cs =>
    match digitsOf cs with
    | ([], _) => none
    | (digits, rest) => some (some digits, rest)
  | cs => some (none, cs)

/-- Reads the power of ten, if there is one. -/
def readPower? : List Char → Option (Option Exponent × List Char)
  | c :: cs =>
    if c = 'e' || c = 'E' then (readExponent? cs).map fun (e, rest) => (some e, rest)
    else some (none, c :: cs)
  | [] => some (none, [])

/-- Reads a number after its sign. -/
def readNumeral? (negative : Bool) (cs : List Char) : Option (Numeral × List Char) := do
  let (whole, cs) ← readWhole? cs
  let (places, cs) ← readPlaces? cs
  let (exponent, cs) ← readPower? cs
  some ({ negative, whole, places, exponent }, cs)

/-- Reads the letters of a word. -/
def readWord? (word : List Char) (value : Json) (cs : List Char) : Option (Json × List Char) :=
  if word.isPrefixOf cs then some (value, cs.drop word.length) else none

mutual

/-- Reads a value, gap in front included. -/
def readValue : Nat → List Char → Option (Json × List Char)
  | 0, _ => none
  | steps + 1, cs =>
    match skipGap cs with
    | [] => none
    | c :: rest =>
      if c = '{' then
        match skipGap rest with
        | '}' :: rest => some (.object [], rest)
        | rest => (readMembers steps rest).map fun (members, rest) => (.object members, rest)
      else if c = '[' then
        match skipGap rest with
        | ']' :: rest => some (.array [], rest)
        | rest => (readElements steps rest).map fun (elements, rest) => (.array elements, rest)
      else if c = '"' then
        (readString? rest).map fun (content, rest) => (.string content, rest)
      else if c = '-' then
        (readNumeral? true rest).map fun (n, rest) => (.number n, rest)
      else if c = 'n' then readWord? "null".toList .null (c :: rest)
      else if c = 't' then readWord? "true".toList (.bool true) (c :: rest)
      else if c = 'f' then readWord? "false".toList (.bool false) (c :: rest)
      else (readNumeral? false (c :: rest)).map fun (n, rest) => (.number n, rest)

/-- Reads the elements of an array, at least one, and its end. -/
def readElements : Nat → List Char → Option (List Json × List Char)
  | 0, _ => none
  | steps + 1, cs =>
    match readValue steps cs with
    | none => none
    | some (value, cs) =>
      match skipGap cs with
      | ',' :: cs => (readElements steps cs).map fun (values, cs) => (value :: values, cs)
      | ']' :: cs => some ([value], cs)
      | _ => none

/-- Reads the members of an object, at least one, and its end. -/
def readMembers : Nat → List Char → Option (List (Option String × Json) × List Char)
  | 0, _ => none
  | steps + 1, cs =>
    match skipGap cs with
    | '"' :: cs =>
      match readString? cs with
      | none => none
      | some (name, cs) =>
        match skipGap cs with
        | ':' :: cs =>
          match readValue steps cs with
          | none => none
          | some (value, cs) =>
            match skipGap cs with
            | ',' :: cs => (readMembers steps cs).map fun (rest, cs) => ((name, value) :: rest, cs)
            | '}' :: cs => some ([(name, value)], cs)
            | _ => none
        | _ => none
    | _ => none

end

/-- The value that a text spells; nothing but a gap may follow it. -/
def parse? (cs : List Char) : Option Json :=
  match readValue (cs.length + 1) cs with
  | some (value, rest) => if (skipGap rest).isEmpty then some value else none
  | none => none

end Macrostep.Json
