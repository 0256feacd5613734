/-
# Timestamps

Points in time, in civil form: a date, a time of day with a resolution of nanoseconds, always in
UTC.  A leap second is the second 60 of a minute.  Conversions to and from seconds since
1 January 1970, the distance between two timestamps, and the move by whole minutes that takes the
local time of another offset to UTC.
-/
import Macrostep.Time.Calendar

namespace Macrostep.Time

/-- Whether four numbers name a time of day; second 60 is a leap second. -/
def IsTimeOfDay (hour minute second nano : Nat) : Prop :=
  hour < 24 ∧ minute < 60 ∧ second ≤ 60 ∧ nano < 1000000000

instance (hour minute second nano : Nat) : Decidable (IsTimeOfDay hour minute second nano) := by
  unfold IsTimeOfDay; infer_instance

/-- A point in time, in UTC. -/
structure Timestamp where
  /-- The day. -/
  date : Date
  /-- The hour, from 0 to 23. -/
  hour : Nat
  /-- The minute, from 0 to 59. -/
  minute : Nat
  /-- The second, from 0 to 59, or 60 for a leap second. -/
  second : Nat
  /-- The nanoseconds that have passed in the second. -/
  nano : Nat
  isTime : IsTimeOfDay hour minute second nano
deriving DecidableEq

namespace Timestamp

/-- The number of the day on which Unix time begins, 1 January 1970. -/
def unixDay : Int := 719162

/-- The timestamp with the given parts, if there is one. -/
def ofParts? (date : Date) (hour minute second nano : Nat) : Option Timestamp :=
  if h : IsTimeOfDay hour minute second nano then some ⟨date, hour, minute, second, nano, h⟩
  else none

/-- The timestamp `seconds` and `nano` after 1 January 1970.  From 10^9 nanoseconds on the leap
second after the last second of a minute is meant. -/
def ofUnix? (seconds : Int) (nano : Nat) : Option Timestamp := do
  let date ← Date.ofDayNumber? (seconds / 86400 + unixDay)
  let inDay := (seconds % 86400).toNat
  let hour := inDay / 3600
  let minute := inDay / 60 % 60
  let second := inDay % 60
  if nano < 1000000000 then ofParts? date hour minute second nano
  else if second = 59 then ofParts? date hour minute 60 (nano - 1000000000)
  else none

/-- The second of the day; a leap second counts as the second before it. -/
def secondOfDay (t : Timestamp) : Nat :=
  t.hour * 3600 + t.minute * 60 + min t.second 59

/-- The nanoseconds after the second of the day, 10^9 or more in a leap second. -/
def fraction (t : Timestamp) : Nat :=
  t.nano + if t.second = 60 then 1000000000 else 0

/-- The whole seconds and the nanoseconds from `start` to `stop`; `none` if `stop` comes first.  The
leap second that one of the two lies in is counted when the time of day moves across it. -/
def elapsed? (start stop : Timestamp) : Option (Nat × Nat) :=
  let days := stop.date.dayNumber - start.date.dayNumber
  let crossed : Int :=
    if start.secondOfDay < stop.secondOfDay ∧ start.second = 60 then 1
    else if stop.secondOfDay < start.secondOfDay ∧ stop.second = 60 then -1
    else 0
  let seconds : Int := stop.secondOfDay - start.secondOfDay + crossed
  let nanos : Int := (days * 86400 + seconds) * 1000000000 + (stop.fraction - start.fraction)
  if nanos < 0 then none
  else some (nanos.toNat / 1000000000, nanos.toNat % 1000000000)

/-- The timestamp a number of minutes earlier, at the same second of its minute. -/
def minutesEarlier? (t : Timestamp) (minutes : Int) : Option Timestamp :=
  if minutes = 0 then some t
  else do
    let count := t.date.dayNumber * 1440 + t.hour * 60 + t.minute - minutes
    let date ← Date.ofDayNumber? (count / 1440)
    let inDay := (count % 1440).toNat
    ofParts? date (inDay / 60) (inDay % 60) t.second t.nano

/-- The start of Unix time. -/
def epoch : Timestamp where
  date := ⟨1970, 1, 1, by decide⟩
  hour := 0
  minute := 0
  second := 0
  nano := 0
  isTime := by decide

/-- The timestamp a number of nanoseconds after the start of Unix time, at most the last one of the
calendar's range. -/
def ofNanos (nanos : Nat) : Timestamp :=
  (ofUnix? (nanos / 1000000000 : Nat) (nanos % 1000000000)).getD
    { date := ⟨lastYear, 12, 31, by decide⟩
      hour := 23, minute := 59, second := 59, nano := 999999999, isTime := by decide }

end Timestamp

end Macrostep.Time
