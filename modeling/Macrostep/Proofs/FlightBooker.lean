/-
# What the flight booker books

The form of the flight booker, told without a machine (`Widget.Flight.filled?`): what each event
makes of it while it is edited, and that nothing is made of it when it was submitted.  The machine
does just that in every dialogue (`Widget.Flight.flight_books`), so a booking that was submitted is
complete (`Widget.Flight.Context.Complete`), whatever dates an earlier choice of the trip has left
behind.
-/
import Macrostep.Proofs.Dialogue
import Macrostep.Proofs.TextOrder
import Macrostep.Widget.Flight

namespace Macrostep

open Occurrence

namespace Widget.Flight

/-! ## The form -/

namespace Context

/-- A form is complete: there is a start date, which is not empty, and for a round trip there is a
return date whose octets come after those of the start date. -/
def Complete (c : Context) : Prop :=
  ∃ start, c.startDate = some start ∧ start ≠ "" ∧
    (c.trip = .roundTrip → ∃ back, c.returnDate = some back ∧ octetsOf start < octetsOf back)

lemma isValid_iff (c : Context) : c.isValid = true ↔ c.Complete := by
  obtain ⟨trip, startDate, returnDate⟩ := c
  cases startDate with
  | none =>
    refine ⟨nofun, ?_⟩
    rintro ⟨start, hstart, -⟩
    cases hstart
  | some start =>
    cases trip with
    | oneWay => simp [isValid, Complete]
    | roundTrip =>
      -- only here the return date matters
      cases returnDate <;> simp [isValid, Complete, octetsOf_lt_iff]

instance (c : Context) : Decidable c.Complete := decidable_of_iff _ c.isValid_iff

end Context

/-- What an event makes of the form, if it makes anything of it. -/
def filled? : State × Context → Event → Option (State × Context)
  | (.editing, c), .startDate date => some (.editing, { c with startDate := some date })
  | (.editing, c), .returnDate date =>
    if c.trip = .roundTrip then some (.editing, { c with returnDate := some date }) else none
  | (.editing, c), .setTrip choice =>
    if choice = "oneWay" then some (.editing, { c with trip := .oneWay })
    else if choice = "roundTrip" then some (.editing, { c with trip := .roundTrip })
    else none
  | (.editing, c), .submit => if c.Complete then some (.submitted, c) else none
  | (.submitted, _), _ => none

/-- If a form was submitted, it is complete. -/
def Sealed (form : State × Context) : Prop := form.1 = .submitted → form.2.Complete

/-- Whatever is made of a form is complete if it is submitted with it. -/
lemma sealed_of_filled? {form form' : State × Context} {event : Event}
    (h : filled? form event = some form') : Sealed form' := by
  obtain ⟨state, c⟩ := form
  intro hsubmitted
  cases state with
  | submitted => cases h
  | editing =>
    cases event with
    | submit =>
      obtain ⟨hcomplete, heq⟩ := Option.ite_none_right_eq_some.mp h
      obtain rfl := Option.some.inj heq
      exact hcomplete
    | startDate date =>
      obtain rfl := Option.some.inj h
      cases hsubmitted
    | returnDate date =>
      obtain ⟨-, heq⟩ := Option.ite_none_right_eq_some.mp h
      obtain rfl := Option.some.inj heq
      cases hsubmitted
    | setTrip choice =>
      simp only [filled?] at h
      split_ifs at h
      all_goals
        obtain rfl := Option.some.inj h
        cases hsubmitted

/-- The form at the beginning. -/
def blank : State × Context := (.editing, ⟨.oneWay, none, none⟩)

lemma sealed_follow (events : List Event) : Sealed (follow filled? blank events) := by
  refine follow_induction ?_ nofun events
  intro form event form' h _
  exact sealed_of_filled? h

/-! ## The machine -/

variable {O : Type}

/-- The transition of an event while the form is edited. -/
def rule : Event → Transition State Context Event O
  | .setTrip _ =>
    { guard := some fun _ e => choosesTrip e
      actions := [.assign Context.setTrip]
      target := none }
  | .startDate _ => { guard := none, actions := [.assign Context.setStartDate], target := none }
  | .returnDate _ =>
    { guard := some fun c _ => c.trip = .roundTrip
      actions := [.assign Context.setReturnDate]
      target := none }
  | .submit => { guard := some fun c _ => c.isValid, actions := [], target := some .submitted }

lemma select_editing (c : Context) (event : Event) :
    (draft (O := O)).compile.select .editing c event =
      [rule event].find? (·.isEnabled c (some event)) := by
  cases event <;> rfl

lemma plain : (draft (O := O)).compile.Plain := by
  refine .of_assigning (by rintro ⟨⟩ <;> rfl) (by rintro ⟨⟩ context <;> rfl) ?_
  intro state context event t hselect run hrun
  cases state with
  | editing =>
    rw [select_editing] at hselect
    obtain rfl := List.mem_singleton.mp (List.mem_of_find?_eq_some hselect)
    cases event with
    | submit => cases hrun
    | _ => cases List.mem_singleton.mp hrun
  | submitted => cases hselect

/-- What is seen of a position of the form. -/
def form (s : Snapshot State Context) : State × Context := (s.state, s.context)

/-- The machine makes of its form what is made of the form. -/
lemma transition_form (s : Snapshot State Context) (event : Event) :
    ((draft (O := O)).compile.transition s event).map form = filled? (form s) event := by
  obtain ⟨⟨⟩, c, done⟩ := s
  · rw [Definition.transition, select_editing, List.find?_singleton]
    cases event with
    | setTrip choice =>
      by_cases honeWay : choice = "oneWay"
      · rw [honeWay]
        rfl
      · by_cases hroundTrip : choice = "roundTrip"
        · rw [hroundTrip]
          rfl
        · have hnone : Trip.ofChoice? choice = none := by
            simp [Trip.ofChoice?, Trip.choice, Ne.symm honeWay, Ne.symm hroundTrip]
          simp [rule, Transition.isEnabled, choosesTrip, form, filled?, hnone, honeWay, hroundTrip]
    | startDate date => rfl
    | returnDate date =>
      by_cases h : c.trip = .roundTrip
      · simp [rule, Transition.isEnabled, form, filled?, h, Definition.apply, Action.applyAll,
          Context.setReturnDate]
      · simp [rule, Transition.isEnabled, form, filled?, h]
    | submit =>
      by_cases h : c.Complete
      · have hvalid := c.isValid_iff.mpr h
        simp [rule, Transition.isEnabled, form, filled?, h, hvalid, Definition.apply,
          Action.applyAll]
      · have hvalid : ¬c.isValid = true := mt c.isValid_iff.mp h
        simp [rule, Transition.isEnabled, form, filled?, h, hvalid]
  · rfl

lemma isFinal_iff (state : State) :
    (draft (O := O)).compile.isFinal state = true ↔ state = .submitted := by
  cases state with
  | editing => exact ⟨nofun, nofun⟩
  | submitted => exact ⟨fun _ => rfl, fun _ => rfl⟩

/-- While the form is edited, it can be submitted if it is valid. -/
lemma transition_submit {s : Snapshot State Context} (hediting : s.state = .editing) :
    ((draft (O := O)).compile.transition s .submit).isSome = s.context.isValid := by
  have hform : form s = (.editing, s.context) := by rw [form, hediting]
  rw [← Option.isSome_map, transition_form, hform, filled?]
  by_cases h : s.context.Complete
  · rw [if_pos h, s.context.isValid_iff.mpr h]
    rfl
  · have hvalid : s.context.isValid = false := by
      rw [← Bool.not_eq_true, s.context.isValid_iff]
      exact h
    rw [if_neg h, hvalid]
    rfl

open Interpreter in
/-- **The flight booker books complete forms alone.**  Start a new flight booker and send it any
events.  All calls end well, and the machine is where the form is that the events fill in one after
the other.  If it is done, the form was submitted and is valid; while the form is edited, it can be
submitted exactly if it is valid, that is, complete.  The position is published once at the start,
and then once for each event of which something is made. -/
theorem flight_books {d : Definition State Context Event Kind O} (hbuild : draft.build = .ok d)
    (options : Options) (now : Nat) (timers : Bool) {events : List Event}
    {results : List (Except InterpreterError Unit)} {it : Interpreter State Context Event Kind O}
    (hdialogue : ({ Interpreter.new d options with now, timers } :
      Interpreter State Context Event Kind O).Dialogue events results it) :
    (∀ result ∈ results, result = .ok ()) ∧
      (it.state, it.context) = follow filled? blank events ∧
      (it.snapshot.done = true ↔ it.state = .submitted) ∧
      (it.snapshot.done = true → it.context.isValid = true) ∧
      (it.state = .editing → it.can .submit = it.context.isValid) ∧
      (it.context.isValid = true ↔ it.context.Complete) ∧
      (it.journal.filterMap emitted?).map form = blank :: trail filled? blank events := by
  obtain rfl := Except.ok.inj hbuild
  have hfresh : Fresh (draft (O := O)).compile options
    { Interpreter.new (draft (O := O)).compile options with now, timers } := .new now timers
  obtain ⟨hresults, hundisturbed, hrunning, hend, hemitted⟩ := hdialogue.course plain hfresh
  have hform : form it.snapshot = follow filled? blank events := by
    rw [hend]
    exact follow_map transition_form _ events
  have hdone : it.snapshot.done = true ↔ it.state = .submitted := by
    rw [hundisturbed.proper, hundisturbed.definition]
    exact isFinal_iff it.state
  refine ⟨hresults, hform, hdone, fun h => ?_, fun hediting => ?_, it.context.isValid_iff, ?_⟩
  · have hsealed := sealed_follow events
    rw [← hform] at hsealed
    exact it.context.isValid_iff.mpr (hsealed (hdone.mp h))
  · rw [can_eq_isSome hrunning, hundisturbed.definition]
    exact transition_submit hediting
  · rw [hemitted, List.map_cons, trail_map transition_form]
    rfl

open Interpreter in
/-- A round trip is not booked while its return comes before its start, and it is booked when the
return was put off; what comes after that is refused. -/
theorem flight_books_round_trip :
    ∃ (results : List (Except InterpreterError Unit))
      (it : Interpreter State Context Event Kind Empty),
      (Interpreter.new draft.compile).Dialogue
        [.setTrip "roundTrip", .startDate "2024-02-01", .returnDate "2024-01-31", .submit,
          .returnDate "2024-02-02", .submit, .setTrip "oneWay"] results it ∧
        (it.state, it.context) =
          (.submitted, ⟨.roundTrip, some "2024-02-01", some "2024-02-02"⟩) ∧
        it.context.isValid = true ∧ (it.journal.filterMap emitted?).length = 6 := by
  obtain ⟨results, it, hdialogue⟩ := exists_dialogue
    (Interpreter.new (draft (O := Empty)).compile)
    [.setTrip "roundTrip", .startDate "2024-02-01", .returnDate "2024-01-31", .submit,
      .returnDate "2024-02-02", .submit, .setTrip "oneWay"]
  obtain ⟨-, hform, hdone, hvalid, -, -, hemitted⟩ := flight_books rfl {} 0 true hdialogue
  have hend : (it.state, it.context) =
      (.submitted, ⟨.roundTrip, some "2024-02-01", some "2024-02-02"⟩) :=
    hform.trans (by decide +kernel)
  have hsubmitted : it.state = .submitted := congrArg Prod.fst hend
  refine ⟨results, it, hdialogue, hend, hvalid (hdone.mpr hsubmitted), ?_⟩
  rw [← List.length_map (f := form), hemitted]
  decide +kernel

end Widget.Flight

end Macrostep
