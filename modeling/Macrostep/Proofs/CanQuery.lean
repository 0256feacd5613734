/-
# What the query foretells

The query `can` asks the definition about the position at hand.  Sending goes a longer way: the
event is queued, leaves the inbox again, is compared with the active effect, meets the candidates of
its state and the shared ones, and whatever it raises is resolved behind it.  When nothing waits,
both come to the same answer: the query holds exactly if sending publishes something
(`Interpreter.can_foretells_send`).  An event that the query turns down comes and goes; the journal
has three more lines, and nothing else is different (`Interpreter.send_of_not_can`).

Publications are counted twice, by the journal and by the watched value.  The two counts agree on
every course (`Interpreter.Course.publications`), so the watched value tells as well as the journal
whether anything was published.
-/
import Macrostep.Proofs.ObserverViews
import Macrostep.Proofs.Refinement
import Macrostep.Proofs.SilentMachines

namespace Macrostep

open Occurrence

/-- A queue that holds nothing has two empty halves. -/
lemma Queue.eq_empty_of_toList {A : Type} {q : Queue A} (h : q.toList = []) : q = {} := by
  obtain ⟨front, back⟩ := q
  obtain ⟨rfl, hback⟩ := List.append_eq_nil_iff.mp h
  obtain rfl := List.reverse_eq_nil_iff.mp hback
  rfl

/-- An event that is queued in an empty inbox leaves it as it was. -/
lemma Inbox.pop?_push_of_empty {E : Type} {inbox : Inbox E} (hempty : inbox.waiting = [])
    (haccepting : inbox.accepting = true) (envelope : Envelope E) :
    (inbox.push envelope).pop? = some (envelope, inbox) := by
  obtain ⟨queue, reception⟩ := inbox
  obtain rfl : queue = {} := Queue.eq_empty_of_toList hempty
  rw [Inbox.push, if_pos haccepting]
  rfl

namespace Interpreter

variable {S C E K O : Type} [DecidableEq S] {it it' it₀ : Interpreter S C E K O}
  {told : List (Occurrence S C E O)} {d : Definition S C E K O} {options : Options}

/-! ## The count of publications -/

/-- The watched value counts what one move publishes. -/
lemma Airing.version (h : it.Airing told it') :
    it'.watched.version = it.watched.version + (told.filterMap emitted?).length := by
  cases h with
  | quiet hunheard =>
    rw [hunheard.watched, emitted_of_quiet hunheard.quiet]
    rfl
  | publish hcues hbroadcast hstatus hwatched hsubscribers hnext =>
    rw [hwatched, emitted_of_broadcast hcues.isCue hbroadcast]
    rfl
  | welcome hwelcoming =>
    have hwatched : it'.watched = it.watched := by
      cases hwelcoming with
      | enroll _ hsteady => exact hsteady.watched
      | join _ hsteady => exact hsteady.watched
      | refuse _ hsteady => exact hsteady.watched
    rw [hwatched, hwelcoming.emitted]
    rfl
  | part id => rfl
  | close hquiet hstatus hsnapshot hwatched hsubscribers hnext =>
    rw [hwatched, emitted_of_quiet hquiet]
    rfl

variable [Label S] [DecidableEq K] [Kinded E K]

/-- **The watched value counts the publications.**  On every course the journal is carried on, and
the version of the watched value grows by one with each snapshot that is published. -/
theorem Course.publications (hcourse : it.Course it') :
    ∃ told, it'.journal = it.journal ++ told ∧
      it'.watched.version = it.watched.version + (told.filterMap emitted?).length := by
  induction hcourse with
  | refl => exact ⟨[], (List.append_nil _).symm, rfl⟩
  | tail hcourse hmove ih =>
    obtain ⟨before, hjournal, hversion⟩ := ih
    obtain ⟨told, hmore, hairing⟩ := hmove.airing
    refine ⟨before ++ told, by rw [hmore, hjournal, List.append_assoc], ?_⟩
    rw [hairing.version, hversion, List.filterMap_append, List.length_append, Nat.add_assoc]

/-! ## One event in an empty inbox -/

/-- What sending an event first does, when nothing waits: the event is queued and leaves the inbox
at once. -/
def hearing (it : Interpreter S C E K O) (event : E) : Interpreter S C E K O :=
  (it.log (.accepted ⟨event, .external⟩)).log (.taken ⟨event, .external⟩)

section

variable {event : E} (hrunning : it.status = .running) (haccepting : it.inbox.accepting = true)
  (hempty : it.inbox.waiting = [])

include hrunning haccepting hempty

/-- Sending resolves the event, and if that goes well, what was queued meanwhile. -/
lemma send_of_idle (event : E) (budget : Nat) :
    let r := (it.hearing event).resolve ⟨event, .external⟩
    (r.2 = .ok () → it.send (budget + 1) event = r.1.drain budget) ∧
      ∀ error, r.2 = .error error → it.send (budget + 1) event = (r.1, .error error) := by
  let queued : Interpreter S C E K O :=
    { it with inbox := it.inbox.push ⟨event, .external⟩ }.log (.accepted ⟨event, .external⟩)
  have hsend : it.send (budget + 1) event = queued.drain (budget + 1) := by
    simp only [send, hrunning]
    rw [enqueue_of_accepting haccepting]
  have hstatus : queued.status = .running := hrunning
  have hpop : queued.inbox.pop? = some (⟨event, .external⟩, it.inbox) :=
    Inbox.pop?_push_of_empty hempty haccepting _
  rw [hsend]
  exact ⟨fun hok => drain_succ_of_ok hstatus hpop hok budget,
    fun error herror => drain_succ_of_error hstatus hpop herror budget⟩

omit [Label S] haccepting hempty in
/-- The query asks for the transition of the event. -/
lemma can_eq_isSome :
    it.can event = (it.definition.transition it.snapshot event).isSome := by
  simp [can, hrunning, Definition.accepts, Definition.transition]

/-- An event that the query turns down comes and goes: the journal has three more lines, and nothing
else is different. -/
theorem send_of_not_can (hcan : it.can event = false) (budget : Nat) :
    it.send (budget + 1) event =
      ({ it with
        recorded := .unhandled it.state event :: .taken ⟨event, .external⟩ ::
          .accepted ⟨event, .external⟩ :: it.recorded }, .ok ()) := by
  let heard := it.hearing event
  have hnone : heard.definition.transition heard.snapshot event = none := by
    rw [can_eq_isSome hrunning] at hcan
    exact Option.not_isSome_iff_eq_none.mp (Bool.eq_false_iff.mp hcan)
  have hresolve : heard.resolve ⟨event, .external⟩ =
      (heard.log (.unhandled it.state event), .ok ()) :=
    resolve_of_transition_none rfl hnone
  have hdone : (heard.log (.unhandled it.state event)).inbox.waiting = [] := hempty
  obtain ⟨hok, -⟩ := send_of_idle hrunning haccepting hempty event budget
  rw [hok (congrArg Prod.snd hresolve), hresolve]
  exact drain_of_done (.inr hdone) budget

/-- An event that the query lets pass is resolved, and the position at its end is published, whatever
happens behind it. -/
theorem send_of_can (hproper : it.Proper) (hcan : it.can event = true) (budget : Nat) :
    ∃ told, (it.send (budget + 1) event).1.journal = it.journal ++ told ∧
      told.filterMap emitted? ≠ [] := by
  let heard := it.hearing event
  rw [can_eq_isSome hrunning] at hcan
  obtain ⟨s₀, hsome⟩ := Option.isSome_iff_exists.mp hcan
  have hheard : heard.Proper := hproper
  have haccept : heard.staleGeneration? ⟨event, .external⟩ = none := rfl
  obtain ⟨⟨-, -, -, shown, hshown, hemitted⟩, -⟩ := resolve_of_transition hheard haccept hsome
  -- what is resolved behind the event only adds to the journal
  obtain ⟨rest, hrest⟩ : ∃ rest, (it.send (budget + 1) event).1.journal =
      (heard.resolve ⟨event, .external⟩).1.journal ++ rest := by
    obtain ⟨hok, herror⟩ := send_of_idle hrunning haccepting hempty event budget
    cases hresult : (heard.resolve ⟨event, .external⟩).2 with
    | ok u =>
      obtain ⟨rest, hrest, -⟩ :=
        Course.publications (Course.drain (heard.resolve ⟨event, .external⟩).1 budget)
      exact ⟨rest, by rw [hok hresult, hrest]⟩
    | error error => exact ⟨[], by rw [herror error hresult, List.append_nil]⟩
  have hjournal : heard.journal =
      it.journal ++ [.accepted ⟨event, .external⟩, .taken ⟨event, .external⟩] := by
    simp [heard, hearing]
  refine ⟨_, by rw [hrest, hshown, hjournal, List.append_assoc, List.append_assoc], ?_⟩
  rw [List.filterMap_append, List.filterMap_append, hemitted]
  simp

end

/-- **The query foretells the sending.**  Take an interpreter that runs and in whose inbox nothing
waits, at any point of any course.  Then `can` holds for an event exactly if sending it publishes
something, which the journal and the watched value tell alike.  If `can` does not hold, sending ends
well: the event is queued, is taken and finds no transition, which the journal says, and with it no
step is taken and no user code runs.  Everything else is as it was: the position, the history, the
effect and the count of attempts, the warnings, the observers, the watched value with its version,
and the inbox. -/
theorem can_foretells_send (hfresh : Fresh d options it₀) (hcourse : it₀.Course it)
    (hrunning : it.status = .running) (hempty : it.inbox.waiting = []) (event : E) (budget : Nat) :
    ∃ told, (it.send (budget + 1) event).1.journal = it.journal ++ told ∧
      (it.can event = true ↔ told.filterMap emitted? ≠ []) ∧
      (it.can event = true ↔
        (it.send (budget + 1) event).1.watched.version ≠ it.watched.version) ∧
      (it.can event = false →
        it.answer (some event) = [] ∧
        it.send (budget + 1) event =
          ({ it with
            recorded := .unhandled it.state event :: .taken ⟨event, .external⟩ ::
              .accepted ⟨event, .external⟩ :: it.recorded }, .ok ())) := by
  have haccepting : it.inbox.accepting = true := by
    refine decide_eq_true ((Course.listening hfresh hcourse).resolve_left ?_)
    rw [hrunning]
    nofun
  have hproper := (Course.sound hfresh hcourse).1.proper
  obtain ⟨told, hjournal, hversion⟩ := Course.publications (Course.send it (budget + 1) event)
  have hemits : it.can event = true ↔ told.filterMap emitted? ≠ [] := by
    constructor
    · intro hcan
      obtain ⟨told', hjournal', hemitted⟩ :=
        send_of_can hrunning haccepting hempty hproper hcan budget
      rwa [List.append_cancel_left (hjournal.symm.trans hjournal')]
    · intro hemitted
      cases hcan : it.can event with
      | true => rfl
      | false =>
        -- the watched value stays, and it would have counted a publication
        rw [send_of_not_can hrunning haccepting hempty hcan] at hversion
        have hnone : (told.filterMap emitted?).length = 0 := Nat.left_eq_add.mp hversion
        exact absurd (List.eq_nil_of_length_eq_zero hnone) hemitted
  refine ⟨told, hjournal, hemits, ?_, fun hcan => ⟨?_, ?_⟩⟩
  · rw [hemits, hversion, ne_eq, ne_eq, Nat.add_eq_left, List.length_eq_zero_iff]
  · rw [answer, Definition.respond_some_eq_nil_iff]
    simpa [can, hrunning, Definition.accepts] using hcan
  · exact send_of_not_can hrunning haccepting hempty hcan budget

open Lamp in
/-- The lamp that is on can be pressed, and pressing it publishes; the lamp that is off hears a beat
and stays as it is. -/
theorem can_foretells_send_lamp :
    (pressed.send 9 .press).1.watched.version ≠ pressed.watched.version ∧
      (started.send 9 .beat).2 = .ok () ∧
      (started.send 9 .beat).1.snapshot = started.snapshot := by
  obtain ⟨-, -, -, hpress, -⟩ :=
    can_foretells_send new_fresh pressed_course rfl rfl .press 8
  obtain ⟨-, -, -, -, hbeat⟩ :=
    can_foretells_send new_fresh started_course rfl rfl .beat 8
  obtain ⟨-, hsend⟩ := hbeat rfl
  rw [hsend]
  exact ⟨hpress.mp rfl, rfl, rfl⟩

end Interpreter

end Macrostep
