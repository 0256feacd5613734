/-
# After the stop

What the stop leaves is inert (`Interpreter.Inert`).  Every call on it comes back at once, with a
word in the journal at most (`Interpreter.Rebuffs`), and no number of calls moves it: no user code
runs any more (`Interpreter.stop_inert`).
-/
import Macrostep.Proofs.Moves

namespace Macrostep

open Occurrence

variable {S C E K O : Type}

/-- The envelope that the inbox did not take. -/
def Occurrence.refused? : Occurrence S C E O → Option (Envelope E)
  | refused envelope => some envelope
  | _ => none

namespace Interpreter

variable {it it' it₀ : Interpreter S C E K O} {told more : List (Occurrence S C E O)}

/-- What the cleanup of the active effect sends behind a closed inbox. -/
def lastSends (it : Interpreter S C E K O) : List (Envelope E) :=
  it.effect.elim [] fun active =>
    (Output.events (active.handle.ending false).outputs).map fun event =>
      ⟨event, .effect active.generation⟩

/-! ## Inert interpreters -/

/-- It was stopped: nothing waits and nothing is accepted, nobody observes and no effect is
active. -/
structure Inert (it : Interpreter S C E K O) : Prop where
  status : it.status = .stopped
  subscribers : it.subscribers = []
  waiting : it.inbox.waiting = []
  accepting : it.inbox.accepting = false
  effect : it.effect = none

/-- The machine stands where it stood, and the same is watched. -/
structure Unmoved (it it' : Interpreter S C E K O) : Prop where
  definition : it'.definition = it.definition
  options : it'.options = it.options
  snapshot : it'.snapshot = it.snapshot
  history : it'.history = it.history
  watched : it'.watched = it.watched
  generation : it'.generation = it.generation

lemma Unmoved.trans {it'' : Interpreter S C E K O} (h : it.Unmoved it') (h' : it'.Unmoved it'') :
    it.Unmoved it'' where
  definition := h'.definition.trans h.definition
  options := h'.options.trans h.options
  snapshot := h'.snapshot.trans h.snapshot
  history := h'.history.trans h.history
  watched := h'.watched.trans h.watched
  generation := h'.generation.trans h.generation

lemma inert_stop (h : it.status ≠ .stopped) : it.stop.1.Inert := by
  rw [stop_eq h]
  exact ⟨rfl, rfl, rfl, rfl, rfl⟩

namespace Inert

lemma log (h : it.Inert) (o : Occurrence S C E O) : (it.log o).Inert :=
  ⟨h.status, h.subscribers, h.waiting, h.accepting, h.effect⟩

lemma enqueue (h : it.Inert) (origin : Origin) (event : E) :
    it.enqueue origin event = it.log (.refused ⟨event, origin⟩) :=
  enqueue_of_not_accepting h.accepting origin event

lemma subscribe (h : it.Inert) (react : Observer S C E O) :
    it.subscribe react =
      ({ it with nextSubscription := it.nextSubscription + 1 }, it.nextSubscription) := by
  simp only [Interpreter.subscribe, h.status]

lemma unsubscribe (h : it.Inert) (id : Nat) : it.unsubscribe id = (it, false) := by
  have hnobody : ({ it with subscribers := [] } : Interpreter S C E K O) = it := by
    rw [← h.subscribers]
  simp only [Interpreter.unsubscribe, h.subscribers]
  exact Prod.ext hnobody rfl

lemma advanceTo (h : it.Inert) (time : Nat) (most : Option Nat) :
    it.advanceTo time most = { it with now := time } := by
  simp only [Interpreter.advanceTo, h.effect]

lemma stop (h : it.Inert) : it.stop = (it, []) := if_pos h.status

variable [DecidableEq S] [Label S] [DecidableEq K] [Kinded E K]

/-- Whatever happens to an inert interpreter, it is inert afterwards. -/
lemma move (h : it.Inert) (hmove : it.Move it') : it'.Inert := by
  have hrunning (hstatus : it.status = .running) : it'.Inert := by
    rw [h.status] at hstatus
    cases hstatus
  have hnotStarted (hstatus : it.status = .notStarted) : it'.Inert := by
    rw [h.status] at hstatus
    cases hstatus
  cases hmove with
  | boot hstatus => exact hnotStarted hstatus
  | turn hstatus => exact hrunning hstatus
  | bootAmid hstatus => exact hnotStarted hstatus
  | turnAmid hstatus => exact hrunning hstatus
  | subscribeAmid react hamid =>
    -- there is no moment at which others could send, since nothing is told
    obtain ⟨first, rest, -, -, hjournal, -⟩ := hamid.told
    rw [h.subscribe] at hjournal
    exact absurd hjournal.symm (by simp [journal])
  | post origin event =>
    rw [h.enqueue]
    exact h.log _
  | startIgnored => exact h.log _
  | deferred event => exact h.log _
  | dropped event => exact h.log _
  | ignored event => exact h.log _
  | subscribe react =>
    rw [h.subscribe]
    exact ⟨h.status, h.subscribers, h.waiting, h.accepting, h.effect⟩
  | unsubscribe id =>
    rw [h.unsubscribe]
    exact h
  | takeWarnings => exact ⟨h.status, h.subscribers, h.waiting, h.accepting, h.effect⟩
  | advance time most =>
    rw [h.advanceTo]
    exact ⟨h.status, h.subscribers, h.waiting, h.accepting, h.effect⟩
  | halt =>
    rw [h.stop]
    exact h

end Inert

/-! ## Calls on an inert interpreter -/

section

variable [DecidableEq S] [Label S] [DecidableEq K] [Kinded E K]

/-- What a call on an inert interpreter leaves in the journal. -/
def rebuff? : Call S C E O → Option (Occurrence S C E O)
  | .start _ => some .startIgnored
  | .send _ event => some (.ignored event)
  | .post origin event => some (.refused ⟨event, origin⟩)
  | _ => none

/-- Every call comes back at once: none of them does more than to leave a word in the journal, count
a newcomer or let time pass. -/
structure Rebuffs (it : Interpreter S C E K O) : Prop where
  accepting : it.inbox.accepting = false
  start : ∀ budget, it.start budget = (it.log .startIgnored, .ok it.snapshot)
  send : ∀ budget event, it.send budget event = (it.log (.ignored event), .ok ())
  post : ∀ origin event, it.enqueue origin event = it.log (.refused ⟨event, origin⟩)
  processNext : ∀ budget, it.processNext budget = (it, .inert)
  subscribe : ∀ react, it.subscribe react =
    ({ it with nextSubscription := it.nextSubscription + 1 }, it.nextSubscription)
  unsubscribe : ∀ id, it.unsubscribe id = (it, false)
  can : ∀ event, it.can event = false
  advance : ∀ time most, it.advanceTo time most = { it with now := time }
  stop : it.stop = (it, [])

namespace Inert

lemma rebuffs (h : it.Inert) : it.Rebuffs where
  accepting := h.accepting
  start budget := by simp only [Interpreter.start, h.status]
  send budget event := by simp only [Interpreter.send, h.status]
  post := h.enqueue
  processNext budget := if_neg (by simp [h.status])
  subscribe := h.subscribe
  unsubscribe := h.unsubscribe
  can event := by simp only [Interpreter.can, h.status, ne_eq, not_true, decide_false, Bool.false_and]
  advance := h.advanceTo
  stop := h.stop

/-- A call leaves its word and moves nothing. -/
lemma after (h : it.Inert) (call : Call S C E O) :
    (it.after call).Inert ∧ it.Unmoved (it.after call) ∧
      (it.after call).journal = it.journal ++ (rebuff? call).toList := by
  have hunmoved : it.Unmoved it := ⟨rfl, rfl, rfl, rfl, rfl, rfl⟩
  have hword (o : Occurrence S C E O) : (it.log o).Inert ∧ it.Unmoved (it.log o) ∧
      (it.log o).journal = it.journal ++ [o] :=
    ⟨h.log o, ⟨rfl, rfl, rfl, rfl, rfl, rfl⟩, journal_log it o⟩
  have hquiet {nextSubscription now : Nat} {warnings : List EffectError} :
      ({ it with nextSubscription, now, warnings } : Interpreter S C E K O).Inert ∧
        it.Unmoved { it with nextSubscription, now, warnings } ∧ it.journal = it.journal ++ [] :=
    ⟨⟨h.status, h.subscribers, h.waiting, h.accepting, h.effect⟩, ⟨rfl, rfl, rfl, rfl, rfl, rfl⟩,
      (List.append_nil _).symm⟩
  cases call with
  | start budget =>
    rw [Interpreter.after, h.rebuffs.start]
    exact hword _
  | send budget event =>
    rw [Interpreter.after, h.rebuffs.send]
    exact hword _
  | processNext budget =>
    rw [Interpreter.after, h.rebuffs.processNext]
    exact hquiet
  | stop =>
    rw [Interpreter.after, h.stop]
    exact hquiet
  | post origin event =>
    rw [Interpreter.after, h.enqueue]
    exact hword _
  | subscribe react =>
    rw [Interpreter.after, h.subscribe]
    exact hquiet
  | unsubscribe id =>
    rw [Interpreter.after, h.unsubscribe]
    exact hquiet
  | takeWarnings => exact hquiet
  | advance time most =>
    rw [Interpreter.after, h.advanceTo]
    exact hquiet

/-- So it is with any number of calls. -/
theorem foldl_after (h : it.Inert) (calls : List (Call S C E O)) :
    (calls.foldl Interpreter.after it).Inert ∧ it.Unmoved (calls.foldl Interpreter.after it) ∧
      (calls.foldl Interpreter.after it).journal = it.journal ++ calls.filterMap rebuff? := by
  induction calls generalizing it with
  | nil => exact ⟨h, ⟨rfl, rfl, rfl, rfl, rfl, rfl⟩, (List.append_nil _).symm⟩
  | cons call calls ih =>
    obtain ⟨hinert, hunmoved, hjournal⟩ := h.after call
    obtain ⟨hinert', hunmoved', hjournal'⟩ := ih hinert
    refine ⟨hinert', hunmoved.trans hunmoved', ?_⟩
    rw [List.foldl_cons, hjournal', hjournal, List.append_assoc]
    cases hword : rebuff? call with
    | none => rw [List.filterMap_cons_none hword]; rfl
    | some o => rw [List.filterMap_cons_some hword]; rfl

end Inert

/-! ## Whoever was stopped stays inert -/

variable {d : Definition S C E K O} {options : Options}

/-- An interpreter that was stopped on its way is inert. -/
theorem Course.inert (hfresh : Fresh d options it₀) (hcourse : it₀.Course it)
    (hstopped : it.status = .stopped) : it.Inert := by
  induction hcourse with
  | refl =>
    rw [hfresh.blank.status] at hstopped
    cases hstopped
  | @tail here there hcourse hmove ih =>
    by_cases hbefore : here.status = .stopped
    · exact (ih hbefore).move hmove
    -- only the stop leads from another status to this one
    rcases hmove.beside_or with
      ⟨told, hbeside⟩ | ⟨-, hamid⟩ | ⟨hrunning, envelope, inbox, -, hamid⟩ | rfl
    · exact absurd (hbeside.status.symm.trans hstopped) hbefore
    · obtain ⟨queue, recorded, rfl⟩ := hamid.exists_amid
      cases hstopped.symm.trans (booted_status here)
    · obtain ⟨queue, recorded, rfl⟩ := hamid.exists_amid
      cases hstopped.symm.trans ((step_status here envelope inbox).trans hrunning)
    · exact inert_stop hbefore

end

/-! ## The stop at any time -/

/-- What the stop does: what waits is thrown away unhandled, the active effect is cleaned up once
while nothing is accepted any more, and the failure of its cleanup comes back. -/
structure Quits (it : Interpreter S C E K O) (told : List (Occurrence S C E O)) : Prop
    extends it.Unmoved it.stop.1 where
  warnings : it.stop.1.warnings = it.warnings
  inert : it.stop.1.Inert
  journal : it.stop.1.journal = it.journal ++ told
  words : told = if it.status = .stopped then [] else it.lastWords
  taken : told.filterMap taken? = []
  cleanups : told.filterMap cleanup? = (it.effect.map ActiveEffect.generation).toList
  accepted : told.filterMap accepted? = []
  refused : told.filterMap refused? = it.lastSends
  failures : it.stop.2 = it.lastFailure.toList

/-- Behind a closed inbox every event of user code is refused. -/
lemma refused_map_report (origin : Origin) (outputs : List (Output E O)) :
    (outputs.map fun output => (output.report origin false : Occurrence S C E O)).filterMap
        refused? = (Output.events outputs).map fun event => ⟨event, origin⟩ := by
  induction outputs with
  | nil => rfl
  | cons output outputs ih =>
    cases output with
    | send event => exact congrArg (_ :: ·) ih
    | note content => exact ih
    | share => exact ih

lemma accepted_map_report (origin : Origin) (outputs : List (Output E O)) :
    (outputs.map fun output => (output.report origin false : Occurrence S C E O)).filterMap
        accepted? = [] := by
  rw [List.filterMap_eq_nil_iff, List.forall_mem_map]
  intro output _
  cases output <;> rfl

/-- The readings of the last words. -/
lemma read_lastWords (it : Interpreter S C E K O) :
    it.lastWords.filterMap taken? = [] ∧
      it.lastWords.filterMap cleanup? = (it.effect.map ActiveEffect.generation).toList ∧
      it.lastWords.filterMap accepted? = [] ∧ it.lastWords.filterMap refused? = it.lastSends := by
  have hfailed : ∀ o ∈ (it.lastFailure.toList.map .cleanupFailed : List (Occurrence S C E O)),
      o.taken? = none ∧ o.cleanup? = none ∧ o.accepted? = none ∧ o.refused? = none :=
    List.forall_mem_map.mpr fun _ _ => ⟨rfl, rfl, rfl, rfl⟩
  have htaken := List.filterMap_eq_nil_iff.mpr fun o ho => (hfailed o ho).1
  have hcleanup := List.filterMap_eq_nil_iff.mpr fun o ho => (hfailed o ho).2.1
  have haccepted := List.filterMap_eq_nil_iff.mpr fun o ho => (hfailed o ho).2.2.1
  have hrefused := List.filterMap_eq_nil_iff.mpr fun o ho => (hfailed o ho).2.2.2
  simp only [lastWords, List.filterMap_append, htaken, hcleanup, haccepted, hrefused]
  cases hactive : it.effect with
  | none => simp [lastDeeds, lastSends, hactive, taken?, cleanup?, accepted?, refused?]
  | some active =>
    let origin := Origin.effect active.generation
    let outputs := (active.handle.ending false).outputs
    have hreports := forall_isReport_map (S := S) (C := C) origin false outputs
    have hnone : (outputs.map fun output =>
        (output.report origin false : Occurrence S C E O)).filterMap taken? = [] :=
      filterMap_eq_nil_of_class (fun _ ho => taken?_of_isAside (isAside_of_isReport ho)) hreports
    have hdeeds : it.lastDeeds =
        .cleaned active.generation :: outputs.map (·.report origin false) := by
      rw [lastDeeds, hactive]
      rfl
    have hsends : it.lastSends = (Output.events outputs).map fun event => ⟨event, origin⟩ := by
      rw [lastSends, hactive]
      rfl
    rw [hdeeds, hsends]
    refine ⟨?_, ?_, ?_, ?_⟩
    · rw [List.filterMap_cons_none rfl, hnone]
      rfl
    · rw [List.filterMap_cons_some (f := cleanup?) rfl, cleanups_of_reports hreports]
      rfl
    · rw [List.filterMap_cons_none rfl, accepted_map_report]
      rfl
    · rw [List.filterMap_cons_none rfl, refused_map_report]
      exact (List.append_nil _).trans (List.append_nil _)

/-- A stop after the stop does nothing. -/
lemma Inert.quits (h : it.Inert) : it.Quits [] where
  toUnmoved := by rw [h.stop]; exact ⟨rfl, rfl, rfl, rfl, rfl, rfl⟩
  warnings := by rw [h.stop]
  inert := by rw [h.stop]; exact h
  journal := by rw [h.stop, List.append_nil]
  words := (if_pos h.status).symm
  taken := rfl
  cleanups := by rw [h.effect]; rfl
  accepted := rfl
  refused := by rw [lastSends, h.effect]; rfl
  failures := by rw [h.stop, lastFailure, h.effect]; rfl

/-- The first stop has the last words. -/
lemma quits_of_not_stopped (h : it.status ≠ .stopped) : it.Quits it.lastWords where
  toUnmoved := by rw [stop_eq h]; exact ⟨rfl, rfl, rfl, rfl, rfl, rfl⟩
  warnings := by rw [stop_eq h]; rfl
  inert := inert_stop h
  journal := journal_stop h
  words := (if_neg h).symm
  taken := (read_lastWords it).1
  cleanups := (read_lastWords it).2.1
  accepted := (read_lastWords it).2.2.1
  refused := (read_lastWords it).2.2.2
  failures := by rw [stop_eq h]

section

variable [DecidableEq S] [Label S] [DecidableEq K] [Kinded E K] {d : Definition S C E K O}
  {options : Options}

/-- **The stop makes an interpreter inert for good**, in whatever status it is.  What waits is thrown
away unhandled; the active effect, if there is one, is cleaned up once behind the closed inbox, so
that every event of the cleanup is refused; and what comes back is the failure of the cleanup, if it
failed.  From then on no number of calls in any order moves the machine: every call is rebuffed,
those to come as well, and all that the journal tells are the words with which the calls were
rebuffed, so no observer, effect or action has run. -/
theorem stop_inert (hfresh : Fresh d options it₀) (hcourse : it₀.Course it) :
    (∃ told, it.Quits told) ∧
      ∀ calls : List (Call S C E O),
        it.stop.1.Unmoved (calls.foldl after it.stop.1) ∧
          (calls.foldl after it.stop.1).status = .stopped ∧
          (calls.foldl after it.stop.1).Rebuffs ∧
          (calls.foldl after it.stop.1).journal = it.stop.1.journal ++ calls.filterMap rebuff? := by
  have hquits : ∃ told, it.Quits told := by
    by_cases hstopped : it.status = .stopped
    · exact ⟨[], (Course.inert hfresh hcourse hstopped).quits⟩
    · exact ⟨it.lastWords, quits_of_not_stopped hstopped⟩
  refine ⟨hquits, fun calls => ?_⟩
  obtain ⟨told, hquits⟩ := hquits
  obtain ⟨hinert, hunmoved, hjournal⟩ := hquits.inert.foldl_after calls
  exact ⟨hunmoved, hinert.status, hinert.rebuffs, hjournal⟩

end

end Interpreter

namespace Lamp

open Interpreter

/-- An effect whose cleanup sends a beat and then fails. -/
def hiss : Effect Nat Event Unit where
  id := "hiss"
  launch _ _ :=
    { result := .ok { cleanup := some fun _ => { outputs := [.send .beat], failure := "stuck" } } }

/-- A lamp that hisses while it is off. -/
def kettle : Definition State Nat Event Event Unit :=
  { lamp with nodes := [(.off, { effect := hiss })] }

/-- The kettle that was started, before it looks at the press that waits. -/
def hissing : Interpreter State Nat Event Event Unit :=
  ((Interpreter.new kettle).start 1).1.enqueue .external .press

end Lamp

open Lamp in
/-- The kettle throws the press away, and the beat of the cleanup is refused; so is whatever comes
later. -/
theorem Interpreter.stop_inert_lamp :
    let calls : List (Call State Nat Event Unit) :=
      [.send 9 .press, .post (.effect 1) .beat, .processNext 9, .start 9, .stop]
    let later := calls.foldl after hissing.stop.1
    hissing.inbox.waiting = [⟨.press, .external⟩] ∧ hissing.lastSends = [⟨.beat, .effect 1⟩] ∧
      (∃ told, hissing.Quits told) ∧ hissing.stop.2 = [.cleanupFailed "hiss" "stuck"] ∧
      later.Rebuffs ∧
      later.journal = hissing.stop.1.journal ++
        [.ignored .press, .refused ⟨.beat, .effect 1⟩, .startIgnored] := by
  have hcourse : (Interpreter.new kettle).Course hissing :=
    (Course.start _ 1).tail (.post .external Event.press)
  obtain ⟨hquits, hlater⟩ := stop_inert (.new 0 true) hcourse
  obtain ⟨-, -, hrebuffs, hjournal⟩ := hlater
    [.send 9 .press, .post (.effect 1) .beat, .processNext 9, .start 9, .stop]
  exact ⟨rfl, rfl, hquits, rfl, hrebuffs, hjournal⟩

end Macrostep
