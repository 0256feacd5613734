/-
# Timestamps as text

Timestamps are written in the form of RFC 3339: `2024-01-31T18:05:00.250Z`, always in UTC and with
0, 3, 6 or 9 places of the second, the fewest that are exact.  A year outside 0 to 9999 has a sign
and at least four digits.

Reading is more lenient.  The date and the time are separated by `T`, `t` or one space; blanks may
stand between the parts; months, days, hours, minutes and seconds may have one digit; a year may be
shorter than four digits, or have a sign and then any number of digits; places beyond the ninth are
dropped.  The offset is `Z`, `UTC` in any case, or a signed `hh:mm` whose colon may be missing.
-/
import Macrostep.Text.Blank
import Macrostep.Text.Digits
import Macrostep.Time.Timestamp

namespace Macrostep.Time

open Macrostep.Text

/-- A year as it is written. -/
def yearText (year : Int) : List Char :=
  if 0 ≤ year ∧ year ≤ 9999 then padded 4 year.toNat
  else (if year < 0 then '-' else '+') :: padded 4 year.natAbs

/-- The places of a second after the point, with the point; nothing for a whole second. -/
def fractionText (nano : Nat) : List Char :=
  if nano = 0 then []
  else if nano % 1000000 = 0 then '.' :: padded 3 (nano / 1000000)
  else if nano % 1000 = 0 then '.' :: padded 6 (nano / 1000)
  else '.' :: padded 9 nano

/-- A timestamp as it is written. -/
def Timestamp.text (t : Timestamp) : List Char :=
  yearText t.date.year ++ '-' :: padded 2 t.date.month ++ '-' :: padded 2 t.date.day ++
    'T' :: padded 2 t.hour ++ ':' :: padded 2 t.minute ++ ':' :: padded 2 t.second ++
    fractionText t.nano ++ ['Z']

/-- Reads one given character after blanks. -/
def readMark (mark : Char) (cs : List Char) : Option (List Char) :=
  match trimFront cs with
  | c :: rest => if c = mark then some rest else none
  | [] => none

/-- Reads a year: up to four digits, or a sign and any number of digits. -/
def readYear (cs : List Char) : Option (Int × List Char) :=
  match trimFront cs with
  | '-' :: rest => (readNumber rest.length rest).map fun (n, rest) => (-n, rest)
  | '+' :: rest => (readNumber rest.length rest).map fun (n, rest) => (n, rest)
  | rest => (readNumber 4 rest).map fun (n, rest) => (n, rest)

/-- Reads a number of one or two digits after blanks. -/
def readTwo (cs : List Char) : Option (Nat × List Char) :=
  readNumber 2 (trimFront cs)

/-- Reads the places of a second, if a point follows: nine digits count, the rest are dropped. -/
def readFraction : List Char → Option (Nat × List Char)
  | '.' :: cs =>
    match spanDigits 9 cs with
    | ([], _) => none
    | (digits, rest) =>
      some (valueOf digits * Nat.pow 10 (9 - digits.length), rest.dropWhile Char.isDigit)
  | cs => some (0, cs)

/-- Reads the hours and minutes of a signed offset, in minutes. -/
def readHoursMinutes (negative : Bool) (cs : List Char) : Option (Int × List Char) := do
  let (h, cs) ← twoDigits cs
  let (m, rest) ← twoDigits (cs.dropWhile fun c => c = ':' || isBlank c)
  if m < 60 ∧ h < 24 then
    let minutes : Int := (h * 60 + m : Nat)
    some (if negative then -minutes else minutes, rest)
  else none
where
  twoDigits : List Char → Option (Nat × List Char)
    | a :: b :: rest =>
      if a.isDigit && b.isDigit then some (digitValue a * 10 + digitValue b, rest) else none
    | _ => none

/-- Reads the offset from UTC, in minutes. -/
def readOffset (cs : List Char) : Option (Int × List Char) :=
  match cs with
  | 'Z' :: rest => some (0, rest)
  | 'z' :: rest => some (0, rest)
  | '+' :: rest => readHoursMinutes false rest
  | '-' :: rest => readHoursMinutes true rest
  | '−' :: rest => readHoursMinutes true rest
  | a :: b :: c :: rest =>
    if [a, b, c].map Char.toUpper = ['U', 'T', 'C'] then some (0, rest) else none
  | _ => none

/-- Reads the separator of date and time. -/
def readSeparator : List Char → Option (List Char)
  | 'T' :: rest => some rest
  | 't' :: rest => some rest
  | ' ' :: rest => some rest
  | _ => none

/-- The timestamp that a text spells, in UTC. -/
def Timestamp.ofText? (cs : List Char) : Option Timestamp := do
  let (year, cs) ← readYear cs
  let cs ← readMark '-' cs
  let (month, cs) ← readTwo cs
  let cs ← readMark '-' cs
  let (day, cs) ← readTwo cs
  let cs ← readSeparator cs
  let (hour, cs) ← readTwo cs
  let cs ← readMark ':' cs
  let (minute, cs) ← readTwo cs
  let cs ← readMark ':' cs
  let (second, cs) ← readTwo cs
  let (nano, cs) ← readFraction cs
  let (offset, cs) ← readOffset (trimFront cs)
  let date ← Date.ofParts? year month day
  let localTime ← Timestamp.ofParts? date hour minute second nano
  if (trimFront cs).isEmpty then localTime.minutesEarlier? offset else none

end Macrostep.Time
