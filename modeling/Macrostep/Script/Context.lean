/-
# The context and the events of scripted machines

A scripted machine is given as data.  Its context has a number, a text, a list of texts and a number
that may be missing; its events have a kind that is a text, a number and a text.  Its states are
texts, of which there are two types: in the one a mark at the end makes a state final by default, in
the other nothing does.
-/
import Macrostep.Describe
import Macrostep.Stored

namespace Macrostep.Script

/-- The context of a scripted machine. -/
structure Context where
  /-- A number. -/
  n : Int64 := 0
  /-- A text. -/
  s : String := ""
  /-- A list of texts. -/
  log : List String := []
  /-- A number that may be missing. -/
  opt : Option Int64 := none
deriving DecidableEq

open Stored in
instance : Stored Context where
  toJson c := .record
    [("n", toJson c.n), ("s", toJson c.s), ("log", toJson c.log), ("opt", toJson c.opt)]
  ofJson? j := do
    let [n, s, log, opt] ← j.fields? ["n", "s", "log", "opt"] | none
    let n ← required n
    let s ← required s
    let log ← required log
    let opt ← Json.maybe? ofJson? opt
    some { n, s, log, opt }
  write c := write c.n ++ write c.s ++ write c.log ++ write c.opt
  read os := do
    let (n, os) ← read os
    let (s, os) ← read os
    let (log, os) ← read os
    let (opt, os) ← read os
    some ({ n, s, log, opt }, os)

instance : Describe Context where
  describe c := describeRecord "Ctx"
    [("n", describe c.n), ("s", describe c.s), ("log", describe c.log), ("opt", describe c.opt)]

/-- An event of a scripted machine. -/
structure Event where
  /-- Its kind. -/
  kind : String
  /-- A number. -/
  value : Int64 := 0
  /-- A text. -/
  text : String := ""
  /-- The event as it was spelled, by which notes refer to it. -/
  spelling : Json

instance : Kinded Event String where
  kind := Event.kind
  kindName := id

/-- A state of which a mark at the end makes it final by default. -/
structure MarkedState where
  /-- The state with its mark. -/
  text : String
deriving DecidableEq

namespace MarkedState

/-- The mark of states that are final by default. -/
def mark : Char := '!'

/-- Whether a state has the mark. -/
def isMarked (state : MarkedState) : Bool := state.text.toList.getLast? = some mark

/-- The state without its mark. -/
def name (state : MarkedState) : String :=
  if state.isMarked then String.ofList state.text.toList.dropLast else state.text

instance : Label MarkedState where
  name := name
  isFinal := isMarked

instance : Describe MarkedState := ⟨MarkedState.text⟩

instance : Stored MarkedState where
  toJson state := Stored.toJson state.text
  ofJson? j := (Stored.ofJson? j).map MarkedState.mk
  write state := Stored.write state.text
  read os := (Stored.read os).map fun (text, rest) => (⟨text⟩, rest)

end MarkedState

/-- A state that is final only where its declaration says so. -/
structure PlainState where
  /-- The state. -/
  text : String
deriving DecidableEq

namespace PlainState

instance : Label PlainState where
  name := PlainState.text

instance : Describe PlainState := ⟨PlainState.text⟩

instance : Stored PlainState where
  toJson state := Stored.toJson state.text
  ofJson? j := (Stored.ofJson? j).map PlainState.mk
  write state := Stored.write state.text
  read os := (Stored.read os).map fun (text, rest) => (⟨text⟩, rest)

end PlainState

end Macrostep.Script
