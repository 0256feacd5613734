/-
# Stored values

Values that can be put away and taken back, as JSON and as binary records.  Reading JSON is strict
about types and lenient about form: a record may be an object, in which names that are not asked for
are skipped, or an array of its fields in order; a field that may be missing reads as missing when
its name does not occur.  A name that is asked for must not occur twice.
-/
import Macrostep.Binary
import Macrostep.Json.Printer
import Macrostep.Json.Scaling
import Macrostep.Time.Rfc3339

namespace Macrostep

open Binary Decimal

namespace Json

/-- The text of a string. -/
def text? : Json → Option String
  | .string content => content
  | _ => none

/-- A truth value. -/
def bool? : Json → Option Bool
  | .bool value => some value
  | _ => none

/-- An integer from `low` to `high`, spelled without point and exponent. -/
def int? (low high : Int) : Json → Option Int
  | .number n => n.toInt?.filter fun i => low ≤ i && i ≤ high
  | _ => none

/-- A number as a float. -/
def float? : Json → Option Binary64
  | .number n => floatOf? n
  | _ => none

/-- The elements of an array. -/
def elements? : Json → Option (List Json)
  | .array elements => some elements
  | _ => none

/-- A value that may be missing or null. -/
def maybe? {T : Type} (read : Json → Option T) : Option Json → Option (Option T)
  | none => some none
  | some .null => some none
  | some value => (read value).map some

/-- The members of an object under the given names, in the order of the names; each name must occur
at most once, and every name in the object must spell a text. -/
def members? (names : List String) (members : List (Option String × Json)) :
    Option (List (Option Json)) :=
  if members.any fun member => member.1.isNone then none
  else
    names.mapM fun name =>
      match members.filter fun member => member.1 = some name with
      | [] => some none
      | [member] => some (some member.2)
      | _ => none

/-- The fields of a record, in the order of the names.  As an array it must have all of them. -/
def fields? (names : List String) : Json → Option (List (Option Json))
  | .object members => members? names members
  | .array elements => if elements.length = names.length then some (elements.map some) else none
  | _ => none

/-- The fields of a record of which as an array the last ones may be missing. -/
def leadingFields? (names : List String) : Json → Option (List (Option Json))
  | .array elements =>
    if elements.length ≤ names.length then
      some (elements.map some ++ List.replicate (names.length - elements.length) none)
    else none
  | value => fields? names value

/-- The choice among named values: the name as a string, or as the only name of an object whose
value is null. -/
def choice? : Json → Option String
  | .string content => content
  | .object [(name, .null)] => name
  | _ => none

end Json

/-- Values that can be put away and taken back. -/
class Stored (T : Type) where
  /-- The value as JSON. -/
  toJson : T → Json
  /-- The value that a JSON value stands for. -/
  ofJson? : Json → Option T
  /-- The value as octets. -/
  write : T → Octets
  /-- Takes the value from the front of octets. -/
  read : Reader T

namespace Stored

/-- A field that must be there. -/
def required {T : Type} [Stored T] (field : Option Json) : Option T := field.bind ofJson?

instance : Stored String where
  toJson := Json.text
  ofJson? := Json.text?
  write := writeText
  read := readText

instance : Stored Int64 where
  toJson i := Json.int i.toInt
  ofJson? j := (j.int? Int64.minValue.toInt Int64.maxValue.toInt).map Int64.ofInt
  write i := writeNat 8 i.toUInt64.toNat
  read os := (readNat 8 os).map fun (n, rest) => ((UInt64.ofNat n).toInt64, rest)

instance : Stored UInt32 where
  toJson n := Json.int n.toNat
  ofJson? j := (j.int? 0 (UInt32.size - 1 : Nat)).map fun i => UInt32.ofNat i.toNat
  write n := writeNat 4 n.toNat
  read os := (readNat 4 os).map fun (n, rest) => (UInt32.ofNat n, rest)

instance : Stored Binary64 where
  toJson := Json.float
  ofJson? := Json.float?
  write x := writeNat 8 x.bits.toNat
  read os := (readNat 8 os).map fun (n, rest) => (⟨UInt64.ofNat n⟩, rest)

instance : Stored Time.Timestamp where
  toJson t := Json.text (String.ofList t.text)
  ofJson? j := j.text?.bind fun s => Time.Timestamp.ofText? s.toList
  write t := writeText (String.ofList t.text)
  read os := do
    let (s, rest) ← readText os
    let t ← Time.Timestamp.ofText? s.toList
    some (t, rest)

instance {T : Type} [Stored T] : Stored (List T) where
  toJson values := .array (values.map toJson)
  ofJson? j := j.elements?.bind fun elements => elements.mapM ofJson?
  write := writeList write
  read := readList read

instance {T : Type} [Stored T] : Stored (Option T) where
  toJson := Json.optional toJson
  ofJson? j := Json.maybe? ofJson? (some j)
  write := writeOption write
  read := readOption read

/-- Values of a finite list, stored under their names and, as octets, by their places. -/
@[reducible] def ofNames {T : Type} [DecidableEq T] (values : List T) (name : T → String) : Stored T where
  toJson value := Json.text (name value)
  ofJson? j := j.choice?.bind fun n => values.find? fun value => name value = n
  write value := writeNat 4 (values.idxOf value)
  read os := do
    let (n, rest) ← readNat 4 os
    let value ← values[n]?
    some (value, rest)

end Stored

end Macrostep
