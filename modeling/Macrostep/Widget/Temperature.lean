/-
# A temperature converter

Two linked fields.  A field that is typed into keeps the text, and the other one shows the computed
value; clearing a field clears both, and a text that is no number empties the other field.
-/
import Macrostep.Decimal.Reading
import Macrostep.Describe
import Macrostep.Draft.Build
import Macrostep.Stored
import Macrostep.Text.Blank

namespace Macrostep.Widget.Temperature

open Decimal

/-- The only state. -/
inductive State
  | active
deriving DecidableEq

/-- What is done to the fields. -/
inductive Event
  /-- Types a text into the first field. -/
  | celsius (text : String)
  /-- Types a text into the second field. -/
  | fahrenheit (text : String)
deriving DecidableEq

/-- The kinds of events. -/
inductive Kind
  | celsius
  | fahrenheit
deriving DecidableEq

/-- What a field shows. -/
inductive Reading
  /-- A computed value. -/
  | degrees (value : Binary64)
  /-- A text that was typed. -/
  | text (content : String)
deriving DecidableEq

/-- The two fields; an empty one shows nothing. -/
structure Context where
  /-- The field in degrees Celsius. -/
  celsius : Option Reading := none
  /-- The field in degrees Fahrenheit. -/
  fahrenheit : Option Reading := none
deriving DecidableEq

/-- The name of a state. -/
def State.name : State → String
  | active => "Active"

/-- The name of a kind of event. -/
def Kind.name : Kind → String
  | celsius => "Celsius"
  | fahrenheit => "Fahrenheit"

/-- The kind of an event. -/
def Event.kind : Event → Kind
  | celsius _ => .celsius
  | fahrenheit _ => .fahrenheit

instance : Label State where
  name := State.name

instance : Kinded Event Kind where
  kind := Event.kind
  kindName := Kind.name

instance : Stored State := .ofNames [.active] State.name

instance : Describe State := ⟨State.name⟩

/-- A reading is stored without a mark that says what it is: in JSON a number and a string differ,
but from octets it cannot be read. -/
instance : Stored Reading where
  toJson
    | .degrees value => Stored.toJson value
    | .text content => Stored.toJson content
  ofJson?
    | .number n => (Json.floatOf? n).map .degrees
    | .string content => content.map .text
    | _ => none
  write
    | .degrees value => Stored.write value
    | .text content => Stored.write content
  read _ := none

instance : Describe Reading where
  describe
    | .degrees value => "Degrees(" ++ describe value ++ ")"
    | .text content => "Text(" ++ describe content ++ ")"

open Stored in
instance : Stored Context where
  toJson c := .record [("celsius", toJson c.celsius), ("fahrenheit", toJson c.fahrenheit)]
  ofJson? j := do
    let [celsius, fahrenheit] ← j.fields? ["celsius", "fahrenheit"] | none
    let celsius ← Json.maybe? ofJson? celsius
    let fahrenheit ← Json.maybe? ofJson? fahrenheit
    some { celsius, fahrenheit }
  write c := write c.celsius ++ write c.fahrenheit
  read os := do
    let (celsius, os) ← read os
    let (fahrenheit, os) ← read os
    some ({ celsius, fahrenheit }, os)

instance : Describe Context where
  describe c := describeRecord "Temperature"
    [("celsius", describe c.celsius), ("fahrenheit", describe c.fahrenheit)]

/-- The event that a JSON value spells. -/
def Event.ofJson? : Json → Option Event
  | .array [.string (some "Celsius"), .string (some text)] => some (.celsius text)
  | .array [.string (some "Fahrenheit"), .string (some text)] => some (.fahrenheit text)
  | _ => none

/-- What the other field shows for a text, with a formula for its value.  Blanks around a number do
not count, but a text of blanks alone is no number. -/
def convert (text : String) (formula : Binary64 → Binary64) : Option Reading :=
  if text.isEmpty then some (.text "")
  else (readFloat? (Text.trim text.toList)).map fun value => .degrees (formula value)

/-- The temperature in degrees Fahrenheit. -/
def toFahrenheit (celsius : Binary64) : Binary64 := celsius * (9 / 5) + 32

/-- The temperature in degrees Celsius. -/
def toCelsius (fahrenheit : Binary64) : Binary64 := (fahrenheit - 32) * 5 / 9

/-- Types into the first field. -/
def typeCelsius (c : Context) : Option Event → Context
  | some (.celsius text) => ⟨some (.text text), convert text toFahrenheit⟩
  | _ => c

/-- Types into the second field. -/
def typeFahrenheit (c : Context) : Option Event → Context
  | some (.fahrenheit text) => ⟨convert text toCelsius, some (.text text)⟩
  | _ => c

variable {O : Type}

/-- The machine. -/
def draft : Draft State Context Event Kind O :=
  ({ initial := .active, context := {} } : Draft State Context Event Kind O)
    |>.withId "temperature"
    |>.state .active fun s => s
      |>.onKind .celsius (TransitionDraft.assign {} typeCelsius)
      |>.onKind .fahrenheit (TransitionDraft.assign {} typeFahrenheit)

end Macrostep.Widget.Temperature
