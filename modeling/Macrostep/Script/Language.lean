/-
# The language of scripted machines

Tests, assignments, acts and effects as data, and what they mean.
-/
import Macrostep.Script.Context

namespace Macrostep.Script

/-- An order relation of numbers. -/
inductive Comparison
  | lt
  | le
  | eq
  | ne
  | ge
  | gt
deriving DecidableEq

/-- Whether two numbers are in the relation. -/
def Comparison.holds : Comparison → Int64 → Int64 → Bool
  | lt, a, b => a < b
  | le, a, b => a ≤ b
  | eq, a, b => a = b
  | ne, a, b => a ≠ b
  | ge, a, b => b ≤ a
  | gt, a, b => b < a

/-- A test of the context and the event. -/
inductive Test
  /-- Always the same. -/
  | const (b : Bool)
  /-- Compares the number of the context. -/
  | number (relation : Comparison) (k : Int64)
  /-- Compares the number of the event. -/
  | value (relation : Comparison) (k : Int64)
  /-- Compares the length of the list of texts. -/
  | logLength (relation : Comparison) (k : Int64)
  /-- Whether the text of the context is a given one. -/
  | text (x : String)
  /-- Whether the text of the event is a given one. -/
  | eventText (x : String)
  /-- Whether the number that may be missing is a given one. -/
  | opt (k : Option Int64)
  /-- Compares the number of the context with that of the event. -/
  | numberValue (relation : Comparison)
  /-- Whether there is an event. -/
  | event
  /-- Whether the event is of a given kind. -/
  | kind (name : String)
  /-- The opposite of a test. -/
  | not (test : Test)
  /-- Whether both of two tests hold. -/
  | and (first second : Test)
  /-- Whether one of two tests holds. -/
  | or (first second : Test)

/-- Whether a test holds.  Those about the event fail without one. -/
def Test.holds (c : Context) (e : Option Event) : Test → Bool
  | .const b => b
  | .number relation k => relation.holds c.n k
  | .value relation k => e.any fun e => relation.holds e.value k
  | .logLength relation k => relation.holds (Int64.ofNat c.log.length) k
  | .text x => c.s = x
  | .eventText x => e.any fun e => e.text = x
  | .opt k => c.opt = k
  | .numberValue relation => e.any fun e => relation.holds c.n e.value
  | .event => e.isSome
  | .kind k => e.any fun e => e.kind = k
  | .not test => !test.holds c e
  | .and first second => first.holds c e && second.holds c e
  | .or first second => first.holds c e || second.holds c e

/-- Whether all tests of a list hold. -/
def Test.all (tests : List Test) : Test := tests.foldr .and (.const true)

/-- Whether some test of a list holds. -/
def Test.any (tests : List Test) : Test := tests.foldr .or (.const false)

/-- A change of the context. -/
inductive Change
  /-- None. -/
  | keep
  /-- Adds to the number; the sum wraps around. -/
  | add (k : Int64)
  /-- Multiplies the number; the product wraps around. -/
  | mul (k : Int64)
  /-- Sets the number. -/
  | set (k : Int64)
  /-- Adds the number of the event. -/
  | addValue
  /-- Sets the number to that of the event. -/
  | setValue
  /-- Sets the text to that of the event. -/
  | setText
  /-- Appends to the text. -/
  | cat (x : String)
  /-- Appends a text to the list. -/
  | log (x : String)
  /-- Appends the number to the list. -/
  | logNumber
  /-- Appends the kind of the event to the list, or a dash. -/
  | logKind
  /-- Sets the number that may be missing. -/
  | opt (k : Option Int64)
  /-- Sets the number that may be missing to the number. -/
  | optNumber
  /-- Sets everything to nothing. -/
  | clear

/-- The context after a change. -/
def Change.apply (c : Context) (e : Option Event) : Change → Context
  | .keep => c
  | .add k => { c with n := c.n + k }
  | .mul k => { c with n := c.n * k }
  | .set k => { c with n := k }
  | .addValue => { c with n := c.n + (e.map Event.value).getD 0 }
  | .setValue => { c with n := (e.map Event.value).getD c.n }
  | .setText => { c with s := (e.map Event.text).getD c.s }
  | .cat x => { c with s := c.s ++ x }
  | .log x => { c with log := c.log ++ [x] }
  | .logNumber => { c with log := c.log ++ [toString c.n.toInt] }
  | .logKind => { c with log := c.log ++ [(e.map Event.kind).getD "-"] }
  | .opt k => { c with opt := k }
  | .optNumber => { c with opt := some c.n }
  | .clear => {}

/-- What scripted machines note in the journal. -/
inductive Note
  /-- An act with a label was carried out. -/
  | ran (label : String) (n : Int64) (kind : Option String)
  /-- An act sent an event. -/
  | sent (event : Event) (accepted : Bool) (origin : Origin)
  /-- An effect was started. -/
  | effectStarted (id : String) (n : Int64) (generation : Nat)
  /-- An effect was stopped. -/
  | effectStopped (id : String)
  /-- A cleanup sent an event. -/
  | goodbye (event : Event) (accepted : Bool)

/-- An act on the world outside. -/
inductive Act
  /-- Leaves a note with a label. -/
  | exec (label : String)
  /-- Sends an event. -/
  | raise (event : Event)
  /-- Sends an event of a kind with the number and the text of the context. -/
  | raiseContext (event : Int64 → String → Event)
  /-- Sends an event if a test holds. -/
  | raiseIf (test : Test) (event : Event)
  /-- Sends events and notes what became of each. -/
  | sends (events : List Event)

/-- What an act does. -/
def Act.run (outlet : Outlet) (c : Context) (e : Option Event) : Act → List (Output Event Note)
  | .exec label => [.note (.ran label c.n (e.map Event.kind))]
  | .raise event => [.send event]
  | .raiseContext event => [.send (event c.n c.s)]
  | .raiseIf test event => if test.holds c e then [.send event] else []
  | .sends events =>
    events.flatMap fun event => [.send event, .note (.sent event outlet.accepting outlet.origin)]

/-- The distance of the events of a periodic effect. -/
inductive Every
  /-- A number of milliseconds. -/
  | millis (k : Nat)
  /-- The number of the context in milliseconds, none for a negative number. -/
  | number

/-- The distance in nanoseconds. -/
def Every.nanos (c : Context) : Every → Nat
  | millis k => k * 1000000
  | number => c.n.toInt.toNat * 1000000

/-- How an effect that is not periodic behaves. -/
structure Behaviour where
  /-- The events that it sends when it is started. -/
  sends : List Event := []
  /-- The failure with which the start ends, if it fails. -/
  fails : Option EffectError := none
  /-- Whether there is nothing to release. -/
  isNoop : Bool := false
  /-- The events that the cleanup sends. -/
  bye : List Event := []
  /-- The reason for which the cleanup fails, if it fails. -/
  stuck : Option String := none

namespace Behaviour

/-- What the cleanup does. -/
def ending (b : Behaviour) (id : String) (accepting : Bool) : Ending Event Note where
  outputs := .note (.effectStopped id) ::
    b.bye.flatMap fun event => [.send event, .note (.goodbye event accepting)]
  failure := b.stuck

/-- What starting the effect does.  Its outlet is handed out. -/
def startup (b : Behaviour) (id : String) (surroundings : Surroundings) (c : Context) :
    Startup Event Note :=
  let generation := match surroundings.outlet.origin with
    | .effect generation => generation
    | .external => 0
  { outputs := .note (.effectStarted id c.n generation) :: .share :: b.sends.map .send
    result :=
      match b.fails with
      | some error => .error error
      | none => .ok (if b.isNoop then .noop else { cleanup := some (b.ending id) }) }

/-- The effect with a name and a behaviour. -/
def effect (b : Behaviour) (id : String) : Effect Context Event Note where
  id
  launch := b.startup id

end Behaviour

/-- The effect with a name that sends an event again and again. -/
def periodic (id : String) (every : Every) (event : Event) : Effect Context Event Note :=
  interval id (fun c => every.nanos c) event

end Macrostep.Script
