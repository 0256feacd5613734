/-
# Checkpoints of the sample machines

Which checkpoints of the sample machines come back.  Nothing is lost of the counter and of the
flight booker, in either form.  The times of the timer come back from octets; from JSON they come
back as far as the JSON text of a float is read as the same float (`Decimal.Binary64.Kept`), which
it is not for what is no number or infinite.  The readings of the temperature converter are stored
without a mark that says what they are: from JSON they come back if their floats do, and from octets
they cannot be read, so that the binary record of a converter is lost as soon as anything was typed
into it.
-/
import Macrostep.Proofs.CheckpointRoundTrip
import Macrostep.Proofs.DeclaredStates
import Macrostep.Proofs.FloatNumerals
import Macrostep.Widget.Counter
import Macrostep.Widget.Flight
import Macrostep.Widget.Temperature
import Macrostep.Widget.Timer

namespace Macrostep

open Binary Decimal Stored

/-! ## Floats -/

instance : Spelled Binary64 where
  spelled x := by
    change (Json.float x).WellSpelled
    rw [Json.float]
    split
    · rename_i numeral hnumeral
      exact wellFormed_numeral? Layout.json hnumeral
    · trivial

lemma reads_float (x : Binary64) : Reads read (write x) x := by
  intro rest
  have hread : readNat 8 (writeNat 8 x.bits.toNat ++ rest) = some (x.bits.toNat, rest) :=
    reads_nat x.bits.toNat_lt rest
  change (readNat 8 (writeNat 8 x.bits.toNat ++ rest)).map _ = _
  rw [hread]
  simp only [Option.map_some, UInt64.ofNat_toNat]

namespace Decimal.Binary64

/-- Whether the JSON text of a float is read as the same float. -/
def Kept (x : Binary64) : Prop := ofJson? (toJson x) = some x

/-- Infinities and what is no number become null, which is read as no float. -/
lemma not_kept_of_not_finite {x : Binary64} (h : x.parts? = none) : ¬x.Kept := by
  have hjson : toJson x = .null := by
    change Json.float x = .null
    rw [Json.float, Layout.numeral?, h]
    rfl
  rw [Kept, hjson]
  exact nofun

end Decimal.Binary64

/-! ## Contexts -/

namespace Widget

instance : Lossless Counter.State :=
  .of_names (by rintro ⟨⟩; decide) (by rintro ⟨⟩ ⟨⟩ _; rfl) (by decide)

instance : Lossless Counter.Context where
  spelled c := Json.wellSpelled_record.mpr (by simp [spelled])
  ofJson?_toJson c := by
    have hfields : (toJson c).fields? ["count"] = some [some (toJson c.count)] :=
      Json.fields?_record (by simp)
    change ((toJson c).fields? ["count"]).bind _ = _
    rw [hfields]
    simp only [required, ofJson?_toJson, Option.bind_eq_bind, Option.bind_some]
  reads c h rest := by
    have hcount := reads c.count h
    change (read (write c.count ++ rest)).map _ = _
    rw [hcount]
    rfl

instance : Lossless Flight.State :=
  .of_names (by rintro ⟨⟩ <;> decide) (by rintro ⟨⟩ ⟨⟩ <;> decide) (by decide)

instance : Lossless Flight.Trip :=
  .of_names (by rintro ⟨⟩ <;> decide) (by rintro ⟨⟩ ⟨⟩ <;> decide) (by decide)

lemma write_flight (c : Flight.Context) :
    write c = write c.trip ++ (write c.startDate ++ write c.returnDate) := by
  simp only [write, List.append_assoc]

instance : Lossless Flight.Context where
  spelled c := Json.wellSpelled_record.mpr (by simp [spelled])
  ofJson?_toJson c := by
    have hfields : (toJson c).fields? ["trip", "start_date", "return_date"] =
        some [some (toJson c.trip), some (toJson c.startDate), some (toJson c.returnDate)] :=
      Json.fields?_record (by simp)
    have hdate (date : Option String) : Json.maybe? ofJson? (some (toJson date)) = some date :=
      ofJson?_toJson date
    change ((toJson c).fields? ["trip", "start_date", "return_date"]).bind _ = _
    rw [hfields]
    simp only [required, hdate, ofJson?_toJson, Option.bind_eq_bind, Option.bind_some]
  reads c h rest := by
    rw [write_flight] at h ⊢
    simp only [List.length_append] at h
    have htrip := reads c.trip (by omega)
    have hstart := reads c.startDate (by omega)
    have hreturn := reads c.returnDate (by omega)
    simp only [List.append_assoc]
    change (read (write c.trip ++ _)).bind _ = _
    simp only [htrip _, hstart _, hreturn _, Option.bind_eq_bind, Option.bind_some]

namespace Timer

instance : Lossless State :=
  .of_names (by rintro ⟨⟩ <;> decide) (by rintro ⟨⟩ ⟨⟩ <;> decide) (by decide)

instance : Spelled Context where
  spelled c := Json.wellSpelled_record.mpr (by simp [spelled])

/-- Whether the JSON texts of all times are read as the same times. -/
def Context.Kept (c : Context) : Prop := c.elapsed.Kept ∧ c.duration.Kept ∧ c.interval.Kept

lemma ofJson?_toJson_iff (c : Context) : ofJson? (toJson c) = some c ↔ c.Kept := by
  have hfields : (toJson c).fields? ["elapsed", "duration", "interval"] =
      some [some (toJson c.elapsed), some (toJson c.duration), some (toJson c.interval)] :=
    Json.fields?_record (by simp)
  change ((toJson c).fields? ["elapsed", "duration", "interval"]).bind _ = _ ↔ _
  rw [hfields]
  simp only [required, Option.bind_eq_bind, Option.bind_some, Option.bind_eq_some_iff]
  constructor
  · rintro ⟨elapsed, helapsed, duration, hduration, interval, hinterval, heq⟩
    obtain rfl := Option.some.inj heq
    exact ⟨helapsed, hduration, hinterval⟩
  · rintro ⟨helapsed, hduration, hinterval⟩
    exact ⟨_, helapsed, _, hduration, _, hinterval, rfl⟩

lemma reads_context (c : Context) : Reads read (write c) c := by
  intro rest
  have helapsed := reads_float c.elapsed
  have hduration := reads_float c.duration
  have hinterval := reads_float c.interval
  change (read (write c.elapsed ++ write c.duration ++ write c.interval ++ rest)).bind _ = _
  simp only [List.append_assoc, helapsed _, hduration _, hinterval _, Option.bind_eq_bind,
    Option.bind_some]

end Timer

namespace Temperature

instance : Lossless State :=
  .of_names (by rintro ⟨⟩; decide) (by rintro ⟨⟩ ⟨⟩ _; rfl) (by decide)

instance : Spelled Reading where
  spelled
    | .degrees x => spelled x
    | .text content => spelled content

instance : Spelled Context where
  spelled c := by
    have hreading (reading : Option Reading) : (toJson reading).WellSpelled := by
      cases reading with
      | none => trivial
      | some reading => exact spelled reading
    exact Json.wellSpelled_record.mpr (by simp [hreading])

/-- Whether what a field shows is read from its JSON text as the same. -/
def Reading.Kept : Option Reading → Prop
  | some (.degrees x) => x.Kept
  | _ => True

lemma ofJson?_reading_iff (reading : Option Reading) :
    ofJson? (toJson reading) = some reading ↔ Reading.Kept reading := by
  cases reading with
  | none => exact ⟨fun _ => trivial, fun _ => rfl⟩
  | some reading =>
    cases reading with
    | text content => exact ⟨fun _ => trivial, fun _ => rfl⟩
    | degrees x =>
      change Json.maybe? ofJson? (some (Json.float x)) = _ ↔ Json.float? (Json.float x) = _
      rw [Json.float]
      split
      · rename_i numeral hnumeral
        change ((Json.floatOf? numeral).map Reading.degrees).map some = _ ↔
          Json.floatOf? numeral = _
        simp
      · exact ⟨nofun, nofun⟩

/-- Whether both fields are read from their JSON texts as the same. -/
def Context.Kept (c : Context) : Prop := Reading.Kept c.celsius ∧ Reading.Kept c.fahrenheit

lemma ofJson?_toJson_iff (c : Context) : ofJson? (toJson c) = some c ↔ c.Kept := by
  have hfields : (toJson c).fields? ["celsius", "fahrenheit"] =
      some [some (toJson c.celsius), some (toJson c.fahrenheit)] :=
    Json.fields?_record (by simp)
  have hreading (reading : Option Reading) :
      Json.maybe? (ofJson? : Json → Option Reading) (some (toJson reading)) =
        ofJson? (toJson reading) := rfl
  change ((toJson c).fields? ["celsius", "fahrenheit"]).bind _ = _ ↔ _
  rw [hfields]
  simp only [hreading, Option.bind_eq_bind, Option.bind_some, Option.bind_eq_some_iff]
  rw [Context.Kept, ← ofJson?_reading_iff, ← ofJson?_reading_iff]
  constructor
  · rintro ⟨celsius, hcelsius, fahrenheit, hfahrenheit, heq⟩
    obtain rfl := Option.some.inj heq
    exact ⟨hcelsius, hfahrenheit⟩
  · rintro ⟨hcelsius, hfahrenheit⟩
    exact ⟨_, hcelsius, _, hfahrenheit, rfl⟩

lemma reads_blank : Reads read (write ({} : Context)) ({} : Context) := fun _ => rfl

/-- A field that shows something cannot be read from octets. -/
lemma read_of_shown {c : Context} (h : c ≠ {}) (rest : Octets) :
    (read (write c ++ rest) : Option (Context × Octets)) = none := by
  obtain ⟨celsius, fahrenheit⟩ := c
  cases celsius with
  | some celsius => rfl
  | none =>
    cases fahrenheit with
    | some fahrenheit => rfl
    | none => exact absurd rfl h

section

variable {O : Type}

/-- Whatever is typed is shown. -/
lemma typed_ne_blank (limit : Nat) (s : Snapshot State Context) (event : Event) :
    (Leg.endOf s ((draft (O := O)).compile.respond limit s (some event))).context ≠ {} := by
  obtain ⟨⟨⟩, context, done⟩ := s
  intro hblank
  cases event with
  | celsius text =>
    have hshown : some (Reading.text text) = none := by
      cases limit <;> exact congrArg Context.celsius hblank
    cases hshown
  | fahrenheit text =>
    have hshown : some (Reading.text text) = none := by
      cases limit <;> exact congrArg Context.fahrenheit hblank
    cases hshown

/-- The start types nothing. -/
lemma respond_start (limit : Nat) (s : Snapshot State Context) :
    (draft (O := O)).compile.respond limit s none = [] := by
  obtain ⟨⟨⟩, context, done⟩ := s
  cases limit <;> rfl

/-- The fields are blank until something is typed, and never again. -/
lemma reached_blank_iff (limit : Nat) (inputs : List (Option Event)) (s : Snapshot State Context) :
    ((draft (O := O)).compile.reached limit s inputs).context = {} ↔
      s.context = {} ∧ ∀ event, some event ∉ inputs := by
  induction inputs generalizing s with
  | nil => simp [Definition.reached]
  | cons input inputs ih =>
    rw [Definition.reached, ih]
    cases input with
    | none =>
      rw [respond_start]
      simp
    | some event =>
      have hne := typed_ne_blank (O := O) limit s event
      refine ⟨fun h => absurd h.1 hne, fun h => ?_⟩
      exact absurd List.mem_cons_self (h.2 event)

end

end Temperature

end Widget

/-! ## Running machines -/

section

variable {S C E K O : Type} [DecidableEq S] [Label S] [DecidableEq K] [Kinded E K]

/-- An interpreter that the machine built from a draft can get to from its beginning. -/
def Draft.Reaches (draft : Draft S C E K O) (it : Interpreter S C E K O) : Prop :=
  ∃ d options now timers, draft.build = .ok d ∧
    Interpreter.Course { Interpreter.new d options with now, timers } it

namespace Interpreter

/-- What was read is the checkpoint of an interpreter, and its machine goes on from it where the
interpreter stands. -/
structure Returned (it : Interpreter S C E K O) (id : String)
    (read : Except CheckpointError (Checkpoint S C)) : Prop where
  checkpoint : read = .ok (it.checkpoint id)
  position (options : Options) :
    ∃ it', resume it.definition (it.checkpoint id) options = .ok it' ∧ it'.snapshot = it.snapshot

end Interpreter

variable {draft : Draft S C E K O} {it : Interpreter S C E K O}

/-- A checkpoint that comes back is accepted. -/
lemma Draft.Reaches.returned_iff (h : draft.Reaches it) (id : String)
    (read : Except CheckpointError (Checkpoint S C)) :
    it.Returned id read ↔ read = .ok (it.checkpoint id) := by
  refine ⟨fun hread => hread.checkpoint, fun hread => ⟨hread, fun options' => ?_⟩⟩
  obtain ⟨d, options, now, timers, hbuild, hcourse⟩ := h
  have hfresh : Interpreter.Fresh d options { Interpreter.new d options with now, timers } :=
    .new now timers
  have hclosed := Draft.closed_of_build hbuild
  rw [(Interpreter.Course.sound hfresh hcourse).1.definition]
  exact ⟨_, hcourse.resume_checkpoint hclosed hfresh id options', rfl⟩

end

namespace Widget

open Checkpoint

/-- A converter has shown nothing until something was typed. -/
lemma Temperature.Reaches.blank_iff {O : Type} {it : Interpreter State Context Event Kind O}
    (h : Temperature.draft.Reaches it) :
    it.context = {} ↔ ∀ event, some event ∉ inputsOf it.journal := by
  obtain ⟨d, options, now, timers, hbuild, hcourse⟩ := h
  obtain rfl := Except.ok.inj hbuild
  have hfresh : Interpreter.Fresh (Temperature.draft (O := O)).compile options _ := .new now timers
  have hreached := (Interpreter.Course.sound hfresh hcourse).2.reached
  rw [Interpreter.context, hreached, Temperature.reached_blank_iff]
  exact ⟨fun h => h.2, fun h => ⟨rfl, h⟩⟩

/-- Which checkpoints of the sample machines come back.  Those of the counter and of the flight
booker do, from both forms.  Those of the timer do from octets, and from JSON exactly if the JSON
texts of its times are read as the same times.  Those of the temperature converter do from JSON
exactly if the JSON texts of its readings are read as the same readings, and from octets only as
long as nothing was typed: after that no record of it can be read.  Whatever comes back is accepted
by its machine, which goes on from the same position. -/
theorem sample_checkpoints {O : Type} (id : String) :
    (∀ it : Interpreter Counter.State Counter.Context Counter.Event Counter.Event O,
      Counter.draft.Reaches it →
      it.Returned id (ofText (it.checkpoint id).toText) ∧
      ((it.checkpoint id).toOctets.length < UInt64.size →
        it.Returned id (ofOctets (it.checkpoint id).toOctets))) ∧
    (∀ it : Interpreter Flight.State Flight.Context Flight.Event Flight.Kind O,
      Flight.draft.Reaches it →
      it.Returned id (ofText (it.checkpoint id).toText) ∧
      ((it.checkpoint id).toOctets.length < UInt64.size →
        it.Returned id (ofOctets (it.checkpoint id).toOctets))) ∧
    (∀ (duration : Binary64) (it : Interpreter Timer.State Timer.Context Timer.Event Timer.Kind O),
      (Timer.draft duration).Reaches it →
      (it.Returned id (ofText (it.checkpoint id).toText) ↔ it.context.Kept) ∧
      ((it.checkpoint id).toOctets.length < UInt64.size →
        it.Returned id (ofOctets (it.checkpoint id).toOctets))) ∧
    ∀ it : Interpreter Temperature.State Temperature.Context Temperature.Event Temperature.Kind O,
      Temperature.draft.Reaches it →
      (it.Returned id (ofText (it.checkpoint id).toText) ↔ it.context.Kept) ∧
      ((it.checkpoint id).toOctets.length < UInt64.size →
        ((∀ event, some event ∉ inputsOf it.journal) →
          it.Returned id (ofOctets (it.checkpoint id).toOctets)) ∧
        ∀ event, some event ∈ inputsOf it.journal →
          (ofOctets (it.checkpoint id).toOctets :
            Except CheckpointError (Checkpoint Temperature.State Temperature.Context)) =
            .error .deserializationFailed) := by
  refine ⟨?_, ?_, ?_, ?_⟩
  · intro it hreaches
    have hrecovered : (it.checkpoint id).recovered = .ok (it.checkpoint id) := if_pos rfl
    rw [hreaches.returned_iff, hreaches.returned_iff, ofText_lossless, hrecovered]
    exact ⟨rfl, fun hsize => (ofOctets_lossless _ hsize).trans hrecovered⟩
  · intro it hreaches
    have hrecovered : (it.checkpoint id).recovered = .ok (it.checkpoint id) := if_pos rfl
    rw [hreaches.returned_iff, hreaches.returned_iff, ofText_lossless, hrecovered]
    exact ⟨rfl, fun hsize => (ofOctets_lossless _ hsize).trans hrecovered⟩
  · intro duration it hreaches
    rw [hreaches.returned_iff, hreaches.returned_iff, ofText_eq_ok_iff rfl]
    refine ⟨Timer.ofJson?_toJson_iff _, fun hsize => ?_⟩
    exact (ofOctets_of_reads _ hsize (Timer.reads_context _)).trans (if_pos rfl)
  · intro it hreaches
    rw [hreaches.returned_iff, hreaches.returned_iff, ofText_eq_ok_iff rfl]
    refine ⟨Temperature.ofJson?_toJson_iff _, fun hsize => ⟨fun hnothing => ?_, ?_⟩⟩
    · have hblank : (it.checkpoint id).context = {} :=
        (Temperature.Reaches.blank_iff hreaches).mpr hnothing
      have hreads : Reads read (write (it.checkpoint id).context) (it.checkpoint id).context := by
        rw [hblank]
        exact Temperature.reads_blank
      exact (ofOctets_of_reads _ hsize hreads).trans (if_pos rfl)
    · intro event hevent
      refine ofOctets_of_unreadable _ hsize (Temperature.read_of_shown fun hblank => ?_)
      exact (Temperature.Reaches.blank_iff hreaches).mp hblank event hevent

/-- A counter that was started and incremented. -/
def incremented : Interpreter Counter.State Counter.Context Counter.Event Counter.Event Empty :=
  (((Interpreter.new Counter.draft.compile).start 1).1.send 1 .increment).1

/-- A flight booker that was started, and in which a date was set. -/
def dated : Interpreter Flight.State Flight.Context Flight.Event Flight.Kind Empty :=
  (((Interpreter.new Flight.draft.compile).start 1).1.send 1 (.startDate "2024-01-31")).1

/-- A timer that was not started. -/
def idle : Interpreter Timer.State Timer.Context Timer.Event Timer.Kind Empty :=
  Interpreter.new (Timer.draft Binary64.infinity).compile

/-- A converter that was started, and into which a temperature was typed. -/
def typed :
    Interpreter Temperature.State Temperature.Context Temperature.Event Temperature.Kind Empty :=
  (((Interpreter.new Temperature.draft.compile).start 1).1.send 1 (.celsius "1")).1

lemma typed_reaches : Temperature.draft.Reaches typed :=
  ⟨_, {}, 0, true, rfl, (Interpreter.Course.start _ 1).trans (Interpreter.Course.send _ 1 _)⟩

/-- The checkpoints of these: the last one is lost in its binary form, and the timer that has no
end is not the same after its JSON form. -/
theorem sample_checkpoints_samples :
    incremented.Returned "a" (ofText (incremented.checkpoint "a").toText) ∧
    incremented.Returned "a" (ofOctets (incremented.checkpoint "a").toOctets) ∧
    dated.Returned "a" (ofText (dated.checkpoint "a").toText) ∧
    dated.Returned "a" (ofOctets (dated.checkpoint "a").toOctets) ∧
    ¬idle.Returned "a" (ofText (idle.checkpoint "a").toText) ∧
    idle.Returned "a" (ofOctets (idle.checkpoint "a").toOctets) ∧
    (ofOctets (typed.checkpoint "a").toOctets :
      Except CheckpointError (Checkpoint Temperature.State Temperature.Context)) =
      .error .deserializationFailed := by
  have hincremented : Counter.draft.Reaches incremented :=
    ⟨_, {}, 0, true, rfl, (Interpreter.Course.start _ 1).trans (Interpreter.Course.send _ 1 _)⟩
  have hdated : Flight.draft.Reaches dated :=
    ⟨_, {}, 0, true, rfl, (Interpreter.Course.start _ 1).trans (Interpreter.Course.send _ 1 _)⟩
  have hidle : (Timer.draft Binary64.infinity).Reaches idle := ⟨_, {}, 0, true, rfl, .refl⟩
  obtain ⟨hcounter, hflight, htimer, htemperature⟩ := sample_checkpoints (O := Empty) "a"
  have hevent : some (.celsius "1") ∈ inputsOf typed.journal := by
    rw [show inputsOf typed.journal = [none, some (.celsius "1")] from rfl]
    exact List.mem_cons_of_mem _ List.mem_cons_self
  have hlost : ¬idle.context.Kept := fun hkept =>
    Binary64.not_kept_of_not_finite (x := Binary64.infinity) (by decide) hkept.2.1
  exact ⟨(hcounter _ hincremented).1, (hcounter _ hincremented).2 (by decide +kernel),
    (hflight _ hdated).1, (hflight _ hdated).2 (by decide +kernel),
    fun h => hlost ((htimer _ _ hidle).1.mp h), (htimer _ _ hidle).2 (by decide +kernel),
    ((htemperature _ typed_reaches).2 (by decide +kernel)).2 _ hevent⟩

/-- Not every checkpoint of a sample machine comes back from its binary record. -/
theorem typed_record_lost :
    ¬∀ it : Interpreter Temperature.State Temperature.Context Temperature.Event Temperature.Kind
      Empty, Temperature.draft.Reaches it →
        ofOctets (it.checkpoint "a").toOctets = .ok (it.checkpoint "a") := by
  intro hall
  have hshown : (typed.checkpoint "a").context ≠ {} := fun hblank =>
    absurd (congrArg Temperature.Context.celsius hblank) nofun
  have hlost := ofOctets_of_unreadable (typed.checkpoint "a") (by decide +kernel)
    (Temperature.read_of_shown hshown)
  rw [hall typed typed_reaches] at hlost
  cases hlost

end Widget

end Macrostep
