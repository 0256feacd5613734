/-
# Scripted machines in JSON

How tests, changes, acts, effects, registries and whole drafts are spelled in JSON.  What is missing
or null has a default; what has another form is refused.  A test, a change or an act is an array
that begins with its name, and an event is a kind or an array of a kind, a number and a text.
-/
import Macrostep.Draft.Basic
import Macrostep.Script.Language

namespace Macrostep.Script

/-- States that are known by a text. -/
class Textual (S : Type) where
  /-- The state with a text. -/
  ofText : String → S

instance : Textual MarkedState := ⟨MarkedState.mk⟩
instance : Textual PlainState := ⟨PlainState.mk⟩

/-- The member of an object with a name, unless it is null. -/
def member? (name : String) : Json → Option Json
  | .object members =>
    match members.find? fun entry => entry.1 = some name with
    | some (_, .null) => none
    | some (_, value) => some value
    | none => none
  | _ => none

/-- An integer of 64 bits. -/
def integer? (j : Json) : Option Int64 := Stored.ofJson? j

/-- Reads a value that may be missing, and has a default then. -/
def orElse {T : Type} (default : T) (read : Json → Option T) : Option Json → Option T
  | none => some default
  | some .null => some default
  | some value => read value

/-- Reads a list that is empty if it is missing. -/
def listOf? {T : Type} (read : Json → Option T) : Option Json → Option (List T) :=
  orElse [] fun value => value.elements?.bind fun elements => elements.mapM read

/-- The state with a text. -/
def stateOf? {S : Type} [Textual S] (j : Json) : Option S := j.text?.map Textual.ofText

/-- The context with the given members; the others are empty. -/
def Context.ofMembers? (j : Json) : Option Context := do
  let n ← orElse 0 integer? (member? "n" j)
  let s ← orElse "" Json.text? (member? "s" j)
  let log ← listOf? Json.text? (member? "log" j)
  let opt ← Json.maybe? integer? (member? "opt" j)
  some { n, s, log, opt }

/-- The event that a JSON value spells. -/
def Event.ofJson? (j : Json) : Option Event :=
  match j with
  | .string (some kind) => some { kind, spelling := j }
  | .array (.string (some kind) :: rest) => do
    let value ← orElse 0 integer? rest[0]?
    let text ← orElse "" Json.text? rest[1]?
    some { kind, value, text, spelling := j }
  | _ => none

/-- The relation with a sign. -/
def Comparison.ofText? : String → Option Comparison
  | "<" => some .lt
  | "<=" => some .le
  | "==" => some .eq
  | "!=" => some .ne
  | ">=" => some .ge
  | ">" => some .gt
  | _ => none

mutual

/-- The test that a JSON value spells. -/
def Test.ofJson? : Json → Option Test
  | .bool b => some (.const b)
  | .array [.string (some "n"), .string (some sign), k] => do
    some (.number (← Comparison.ofText? sign) (← integer? k))
  | .array [.string (some "v"), .string (some sign), k] => do
    some (.value (← Comparison.ofText? sign) (← integer? k))
  | .array [.string (some "loglen"), .string (some sign), k] => do
    some (.logLength (← Comparison.ofText? sign) (← integer? k))
  | .array [.string (some "s"), .string (some x)] => some (.text x)
  | .array [.string (some "t"), .string (some x)] => some (.eventText x)
  | .array [.string (some "opt"), k] => (Json.maybe? integer? (some k)).map .opt
  | .array [.string (some "nv"), .string (some sign)] =>
    (Comparison.ofText? sign).map .numberValue
  | .array [.string (some "event")] => some .event
  | .array [.string (some "kind"), .string (some k)] => some (.kind k)
  | .array [.string (some "not"), test] => (Test.ofJson? test).map .not
  | .array (.string (some "and") :: tests) => (Test.listOfJson? tests).map .all
  | .array (.string (some "or") :: tests) => (Test.listOfJson? tests).map .any
  | _ => none

/-- The tests that JSON values spell. -/
def Test.listOfJson? : List Json → Option (List Test)
  | [] => some []
  | test :: rest => do some ((← Test.ofJson? test) :: (← Test.listOfJson? rest))

end

/-- The change that a name and its arguments spell. -/
def Change.ofArguments? : String → List Json → Option Change
  | "keep", [] => some .keep
  | "add", [k] => (integer? k).map .add
  | "mul", [k] => (integer? k).map .mul
  | "set", [k] => (integer? k).map .set
  | "addv", [] => some .addValue
  | "setv", [] => some .setValue
  | "sett", [] => some .setText
  | "cat", [x] => x.text?.map .cat
  | "log", [x] => x.text?.map .log
  | "logn", [] => some .logNumber
  | "loge", [] => some .logKind
  | "opt", [k] => (Json.maybe? integer? (some k)).map .opt
  | "optn", [] => some .optNumber
  | "clear", [] => some .clear
  | _, _ => none

/-- The event of a kind with the given number and text, spelled in full. -/
def Event.inFull (kind : String) (value : Int64) (text : String) : Event where
  kind
  value
  text
  spelling := .array [.text kind, .int value.toInt, .text text]

/-- The act that a name and its arguments spell. -/
def Act.ofArguments? : String → List Json → Option Act
  | "exec", [label] => label.text?.map .exec
  | "raise", [event] => (Event.ofJson? event).map .raise
  | "raisen", [kind] => kind.text?.map fun k => .raiseContext (.inFull k)
  | "raise_if", [test, event] => do some (.raiseIf (← Test.ofJson? test) (← Event.ofJson? event))
  | "sends", events => (events.mapM Event.ofJson?).map .sends
  | _, _ => none

/-- The guard that a test makes. -/
def Test.guard (test : Test) : Guard Context Event := fun c e => test.holds c e

/-- The action that a JSON value spells, a change or an act. -/
def actionOf? : Json → Option (Action Context Event Note)
  | .array (.string (some name) :: arguments) =>
    match Change.ofArguments? name arguments with
    | some change => some (.assign fun c e => change.apply c e)
    | none => (Act.ofArguments? name arguments).map fun act => .exec fun way c e => act.run way c e
  | _ => none

/-- The failure that a JSON value spells, of the effect with a name. -/
def failureOf? (effect : String) (j : Json) : Option EffectError := do
  let kind ← orElse "StartFailed" Json.text? (member? "kind" j)
  let id ← orElse effect Json.text? (member? "id" j)
  let reason ← orElse "" Json.text? (member? "reason" j)
  match kind with
  | "StartFailed" => some (.startFailed id reason)
  | "CleanupFailed" => some (.cleanupFailed id reason)
  | "NoRuntime" => some (.noRuntime id)
  | _ => none

/-- The distance of events that a JSON value spells. -/
def Every.ofJson? : Json → Option Every
  | .string (some "n") => some .number
  | j => (j.int? 0 (UInt64.size - 1 : Nat)).map fun k => .millis k.toNat

/-- The behaviour of an effect with a name that a JSON value spells. -/
def Behaviour.ofJson? (effect : String) (j : Json) : Option Behaviour := do
  let sends ← listOf? Event.ofJson? (member? "send" j)
  let fails ← Json.maybe? (failureOf? effect) (member? "fail" j)
  let isNoop ← orElse false Json.bool? (member? "noop" j)
  let bye ← listOf? Event.ofJson? (member? "bye" j)
  let stuck ← Json.maybe? Json.text? (member? "stuck" j)
  some { sends, fails, isNoop, bye, stuck }

/-- The effect that a JSON value spells. -/
def effectOf? (j : Json) : Option (Effect Context Event Note) := do
  let id ← (member? "id" j).bind Json.text?
  match member? "every" j with
  | some every => do
    some (periodic id (← Every.ofJson? every) (← (member? "tick" j).bind Event.ofJson?))
  | none => (Behaviour.ofJson? id j).map fun b => b.effect id

mutual

/-- The registry with what a JSON value registers. -/
def registered? (r : Registry Context Event Note) : Json → Option (Registry Context Event Note)
  | .array [.string (some "guard"), .string (some name), test] =>
    (Test.ofJson? test).map fun test => r.withGuard name test.guard
  | .array [.string (some "action"), .string (some name), action] =>
    (actionOf? action).map fun action => r.withAction name action
  | .array [.string (some "impls"), .array entries] =>
    (allRegistered? {} entries).map fun other => r.extend other
  | _ => none

/-- The registry with what JSON values register, one after the other. -/
def allRegistered? (r : Registry Context Event Note) :
    List Json → Option (Registry Context Event Note)
  | [] => some r
  | entry :: rest => do allRegistered? (← registered? r entry) rest

end

/-- A reference to a registered name, or what is spelled at its place. -/
def referenceOf? {T : Type} (read : Json → Option T) : Json → Option (Reference T)
  | .string (some name) => some (.named name)
  | value => (read value).map .inline

variable {S : Type} [Textual S]

/-- The transition that a JSON value spells. -/
def transitionOf? (j : Json) : Option (TransitionDraft S Context Event Note) := do
  let target ← Json.maybe? stateOf? (member? "to" j)
  let guard ← Json.maybe? (referenceOf? fun g => (Test.ofJson? g).map Test.guard) (member? "guard" j)
  let actions ← listOf? (referenceOf? actionOf?) (member? "actions" j)
  some { target, guard, actions }

/-- A kind of event and the transition for it. -/
def handlerOf? : Json → Option (String × TransitionDraft S Context Event Note)
  | .array [.string (some kind), t] => (transitionOf? t).map fun t => (kind, t)
  | _ => none

variable [Label S]

/-- What stands in front of the name of a final state. -/
def finalMark : String := "final:"

/-- The state that a text declares, final if it is marked so. -/
def stateOfText (x : String) : StateDraft S Context Event String Note :=
  if finalMark.toList.isPrefixOf x.toList then
    (StateDraft.new (Textual.ofText (String.ofList (x.toList.drop finalMark.length)))).final
  else .new (Textual.ofText x)

/-- The declaration of a state that a JSON value spells. -/
def stateDraftOf? : Json → Option (StateDraft S Context Event String Note)
  | .string (some x) => some (stateOfText x)
  | j => do
    let state ← (member? "s" j).bind stateOf?
    let on ← listOf? handlerOf? (member? "on" j)
    let always ← listOf? transitionOf? (member? "always" j)
    let effects ← listOf? effectOf? (member? "invoke" j)
    let isFinal ← orElse false Json.bool? (member? "final" j)
    let declared : StateDraft S Context Event String Note :=
      { state, on, always, effect := effects.getLast?, isFinal := Label.isFinal state }
    some (if isFinal then declared.final else declared)

/-- The draft that a JSON value spells. -/
def draftOf? (j : Json) : Option (Draft S Context Event String Note) := do
  let initial ← (member? "initial" j).bind stateOf?
  let context ← orElse {} Context.ofMembers? (member? "context" j)
  let states ← listOf? stateDraftOf? (member? "states" j)
  let shared ← listOf? handlerOf? (member? "on" j)
  let entries ← listOf? some (member? "registry" j)
  let registry ← allRegistered? {} entries
  let draft : Draft S Context Event String Note := { initial, context, states, shared, registry }
  match member? "id" j with
  | some id => id.text?.map draft.withId
  | none => some draft

end Macrostep.Script
