/-
# JSON values

A JSON text as a value.  Numbers are kept as they are spelled, and objects as lists of members in
the order of the text, so that repeated names are not lost.  A string literal may contain escapes of
surrogates that do not pair up; such a literal is well formed and can be skipped, but it spells no
text.
-/
import Macrostep.Decimal.Layout

namespace Macrostep

open Decimal

/-- A JSON value. -/
inductive Json
  | null
  | bool (value : Bool)
  | number (value : Numeral)
  /-- A string literal; `none` if it spells no text. -/
  | string (content : Option String)
  | array (elements : List Json)
  /-- The members in order; a name is `none` if it spells no text. -/
  | object (members : List (Option String × Json))

namespace Json

/-- A string. -/
def text (s : String) : Json := .string (some s)

/-- An integer. -/
def int (i : Int) : Json := .number (.ofInt i)

/-- An object with the given members. -/
def record (members : List (String × Json)) : Json :=
  .object (members.map fun (name, value) => (some name, value))

/-- A float; infinities and what is no number become null. -/
def float (x : Binary64) : Json :=
  match Layout.json.numeral? x with
  | some numeral => .number numeral
  | none => .null

/-- A value that may be missing. -/
def optional {T : Type} (f : T → Json) : Option T → Json
  | some value => f value
  | none => .null

end Json

end Macrostep
