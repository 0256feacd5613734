/-
# Eventless transitions that are cut

A chain of eventless transitions is cut when it has taken as many steps as the options allow and
another one is still enabled; the call in which that happens tells it.  Between two moves a running
machine is at rest, unless its last publication is that of a chain that was cut
(`Interpreter.Course.rests_or_suspended`).  If no call has told of a cut, the journal does not either
(`Interpreter.foldl_after_smooth`), and then it is always at rest (`Interpreter.Course.rests`).
-/
import Macrostep.Proofs.Emission

namespace Macrostep

open Occurrence

namespace Occurrence

variable {S C E O : Type}

/-- Whether it tells that eventless transitions were cut. -/
def isCut : Occurrence S C E O → Bool
  | unsettled .. => true
  | _ => false

lemma isCut_of_isAside {o : Occurrence S C E O} (h : o.isAside = true) : o.isCut = false := by
  cases o <;> first | rfl | cases h

lemma isCut_of_isReport {o : Occurrence S C E O} (h : o.isReport = true) : o.isCut = false :=
  isCut_of_isAside (isAside_of_isReport h)

end Occurrence

namespace Interpreter

variable {S C E K O : Type} {it it' it₀ : Interpreter S C E K O}
  {told : List (Occurrence S C E O)}

/-- The journal does not tell that eventless transitions were cut. -/
def Smooth (it : Interpreter S C E K O) : Prop := ∀ o ∈ it.journal, o.isCut = false

lemma Smooth.tells (h : it.Smooth) (hjournal : it'.journal = it.journal ++ told)
    (htold : ∀ o ∈ told, o.isCut = false) : it'.Smooth := by
  rw [Smooth, hjournal, List.forall_mem_append]
  exact ⟨h, htold⟩

lemma Smooth.log (h : it.Smooth) {o : Occurrence S C E O} (ho : o.isCut = false) :
    (it.log o).Smooth :=
  h.tells (journal_log it o) (by simpa using ho)

/-! ## What does not cut -/

lemma Releasing.not_isCut {failure : Option EffectError} (h : Releasing it told it' failure) :
    ∀ o ∈ told, o.isCut = false := by
  cases h with
  | idle hno => simp
  | clean hactive hreports =>
    exact List.forall_mem_cons.mpr ⟨rfl, fun o ho => isCut_of_isReport (hreports o ho)⟩

lemma Leaving.not_isCut (h : Leaving it told it') : ∀ o ∈ told, o.isCut = false := by
  cases h with
  | smoothly hrelease => exact hrelease.not_isCut
  | failing hrelease =>
    rw [List.forall_mem_append]
    exact ⟨hrelease.not_isCut, by simp [isCut]⟩

lemma Launching.not_isCut [DecidableEq S] (h : Launching it told it') :
    ∀ o ∈ told, o.isCut = false := by
  cases h with
  | quiet hno => simp
  | success heffect hresult hreports =>
    rw [List.forall_mem_cons, List.forall_mem_append]
    exact ⟨rfl, fun o ho => isCut_of_isReport (hreports o ho), by simp [isCut]⟩
  | failure heffect hresult hreports =>
    rw [List.forall_mem_cons, List.forall_mem_append]
    exact ⟨rfl, fun o ho => isCut_of_isReport (hreports o ho), by simp [isCut]⟩

lemma Smooth.emit (h : it.Smooth) : it.emit.Smooth := by
  obtain ⟨shown, hshown, hadds, -⟩ := emit_spec it
  refine h.tells hadds.journal (List.forall_mem_cons.mpr ⟨rfl, fun o ho => ?_⟩)
  exact isCut_of_isAside (hshown o ho)

lemma Smooth.stop (h : it.Smooth) : it.stop.1.Smooth := by
  by_cases hstopped : it.status = .stopped
  · rwa [stop_of_stopped hstopped]
  obtain ⟨told, hhalt⟩ := stop_spec hstopped
  obtain ⟨rest, hrest, rfl⟩ := hhalt.shape
  refine h.tells hhalt.journal fun o ho => ?_
  simp only [List.mem_append, List.mem_singleton, farewell, List.mem_map] at ho
  rcases ho with (⟨active, -, rfl⟩ | ho) | rfl
  · rfl
  · rcases hrest o ho with hreport | ⟨error, rfl⟩
    · exact isCut_of_isReport hreport
    · rfl
  · rfl

lemma Smooth.beside (h : it.Smooth) (hbeside : it.Beside told it') : it'.Smooth :=
  h.tells hbeside.journal fun o ho => isCut_of_isAside (hbeside.isAside o ho)

section

variable [DecidableEq S] [Kinded E K]

lemma Taking.not_isCut {t : Transition S C E O} {event : Option E}
    (h : Taking it t event told it') : ∀ o ∈ told, o.isCut = false := by
  cases h with
  | inside htarget hreports => exact fun o ho => isCut_of_isReport (hreports o ho)
  | across htarget hreports hleave hlaunch =>
    rw [List.forall_mem_append, List.forall_mem_append, List.forall_mem_cons]
    exact ⟨⟨fun o ho => isCut_of_isReport (hreports o ho), hleave.not_isCut⟩, rfl,
      hlaunch.not_isCut⟩

lemma Smooth.take (h : it.Smooth) (t : Transition S C E O) (event : Option E) :
    (it.take t event).Smooth := by
  obtain ⟨told, htaking, hadds⟩ := take_spec it t event
  exact h.tells hadds.journal htaking.not_isCut

variable [Label S]

/-! ## Who cuts tells it -/

/-- Eventless transitions that end well were not cut. -/
lemma Smooth.settleWithin (h : it.Smooth) {steps : Nat}
    (hok : (it.settleWithin steps).2 = .ok ()) : (it.settleWithin steps).1.Smooth := by
  induction steps generalizing it with
  | zero =>
    cases hsel : it.definition.selectEventless it.state it.context with
    | none => rwa [settleWithin_of_none hsel]
    | some t =>
      rw [settleWithin_zero_of_some hsel] at hok
      cases hok
  | succ steps ih =>
    cases hsel : it.definition.selectEventless it.state it.context with
    | none => rwa [settleWithin_of_none hsel]
    | some t =>
      rw [settleWithin_succ_of_some hsel] at hok ⊢
      exact ih (h.take t none) hok

omit [Kinded E K] in
lemma verdict_eq_error {s : Snapshot S C} {error : InterpreterError}
    (h : it.verdict s = .error error) :
    ∃ state steps, error = .nonTerminatingChain state steps := by
  unfold verdict at h
  split at h
  · cases h
  · cases h
    exact ⟨_, _, rfl⟩

lemma Smooth.booted (h : it.Smooth) (hok : it.booting.2 = .ok ()) : it.booted.Smooth := by
  let begun : Interpreter S C E K O := { it with status := .running }.log (.started it.state)
  obtain ⟨told, hlaunch, hadds⟩ := launch_spec begun
  have hbegun : begun.Smooth := h.log rfl
  have hlaunched := hbegun.tells hadds.journal hlaunch.not_isCut
  exact (hlaunched.settleWithin hok).emit

variable [DecidableEq K]

/-- An event that is resolved to the end cuts nothing. -/
lemma Smooth.step (h : it.Smooth) {envelope : Envelope E} {inbox : Inbox E}
    (hok : (it.step envelope inbox).2 = .ok ()) : (it.step envelope inbox).1.Smooth := by
  have hready : (it.receiving envelope inbox).Smooth := h.log rfl
  change ((it.receiving envelope inbox).resolve envelope).2 = _ at hok
  change ((it.receiving envelope inbox).resolve envelope).1.Smooth
  unfold resolve at hok ⊢
  split at hok
  · exact hready.log rfl
  · split at hok
    · exact hready.log rfl
    · exact ((hready.take _ _).settleWithin hok).emit

lemma step_eq_error {envelope : Envelope E} {inbox : Inbox E} {error : InterpreterError}
    (h : (it.step envelope inbox).2 = .error error) :
    ∃ state steps, error = .nonTerminatingChain state steps := by
  rcases step_verdict it envelope inbox with ⟨hok, -⟩ | hverdict
  · rw [h] at hok
    cases hok
  · exact verdict_eq_error (hverdict.symm.trans h)

lemma Smooth.drain (h : it.Smooth) {budget : Nat}
    (hno : ∀ state steps, (it.drain budget).2 ≠ .error (.nonTerminatingChain state steps)) :
    (it.drain budget).1.Smooth := by
  have hspec := drain_spec it budget
  generalize it.drain budget = r at hspec hno ⊢
  induction hspec with
  | done hdone => exact h
  | spent hstatus hwaiting => exact h
  | next hstatus hpop hok hrest ih => exact ih (h.step hok) hno
  | failed hstatus hpop herr =>
    obtain ⟨state, steps, rfl⟩ := step_eq_error herr
    exact absurd rfl (hno state steps)

/-- Whether a call tells that eventless transitions were cut. -/
def Cuts (it : Interpreter S C E K O) : Call S C E O → Prop
  | .start budget =>
    ∃ state steps, (it.start budget).2 = .error (.nonTerminatingChain state steps)
  | .send budget event =>
    ∃ state steps, (it.send budget event).2 = .error (.nonTerminatingChain state steps)
  | .processNext budget =>
    ∃ state steps, (it.processNext budget).2 = .failed (.nonTerminatingChain state steps)
  | _ => False

lemma Smooth.start (h : it.Smooth) {budget : Nat} (hno : ¬it.Cuts (.start budget)) :
    (it.start budget).1.Smooth := by
  cases hstatus : it.status with
  | running => simpa only [Interpreter.start, hstatus] using h
  | stopped =>
    simp only [Interpreter.start, hstatus]
    exact h.log rfl
  | notStarted =>
    cases hbooting : it.booting.2 with
    | error error =>
      obtain ⟨state, steps, rfl⟩ := verdict_eq_error ((booting_verdict it).symm.trans hbooting)
      exact absurd ⟨state, steps, by rw [start_of_error hstatus hbooting]⟩ hno
    | ok u =>
      rw [Cuts, start_of_ok hstatus hbooting] at hno
      rw [start_of_ok hstatus hbooting]
      refine (h.booted hbooting).drain fun state steps herr => hno ⟨state, steps, ?_⟩
      rw [herr]
      rfl

lemma Smooth.send (h : it.Smooth) {budget : Nat} {event : E}
    (hno : ¬it.Cuts (.send budget event)) : (it.send budget event).1.Smooth := by
  cases hstatus : it.status with
  | running =>
    rw [Cuts, send_of_running hstatus] at hno
    rw [send_of_running hstatus]
    refine (h.beside (Beside.enqueue it .external event)).drain fun state steps herr => ?_
    exact hno ⟨state, steps, herr⟩
  | stopped =>
    simp only [Interpreter.send, hstatus]
    exact h.log rfl
  | notStarted =>
    simp only [Interpreter.send, hstatus]
    split
    · have hdeferred : (it.log (.deferred event)).Smooth := h.log rfl
      exact hdeferred.beside (Beside.enqueue _ .external event)
    · exact h.log rfl

lemma Smooth.processNext (h : it.Smooth) {budget : Nat} (hno : ¬it.Cuts (.processNext budget)) :
    (it.processNext budget).1.Smooth := by
  by_cases hstatus : it.status = .running
  · by_cases hempty : it.inbox.queue.isEmpty = true
    · rwa [processNext_of_waiting hstatus hempty]
    · have hlast := h.drain fun state steps herr => hno ⟨state, steps, by
        rw [processNext_of_error hstatus hempty herr]⟩
      cases hend : (it.drain budget).2 with
      | ok u => rwa [processNext_of_ok hstatus hempty hend]
      | error error => rwa [processNext_of_error hstatus hempty hend]
  · rwa [processNext_of_not_running hstatus]

/-- A call that does not tell of a cut leaves none in the journal. -/
theorem Smooth.after (h : it.Smooth) {call : Call S C E O} (hno : ¬it.Cuts call) :
    (it.after call).Smooth := by
  cases call with
  | start budget => exact h.start hno
  | send budget event => exact h.send hno
  | processNext budget => exact h.processNext hno
  | stop => exact h.stop
  | post origin event => exact h.beside (Beside.enqueue it origin event)
  | subscribe react =>
    obtain ⟨told, hbeside⟩ := Beside.subscribe it react
    exact h.beside hbeside
  | unsubscribe id => exact h
  | takeWarnings => exact h
  | advance time most =>
    obtain ⟨told, hbeside⟩ := Beside.advanceTo it time most
    exact h.beside hbeside

/-! ## Over a course -/

variable {d : Definition S C E K O} {options : Options}

/-- If no call of a list tells of a cut, the journal does not either. -/
theorem foldl_after_smooth (h : it.Smooth) (calls : List (Call S C E O))
    (hno : ∀ before call rest, calls = before ++ call :: rest →
      ¬(before.foldl after it).Cuts call) : (calls.foldl after it).Smooth := by
  induction calls generalizing it with
  | nil => exact h
  | cons call calls ih =>
    refine ih (h.after (hno [] call calls rfl)) fun before next rest hcalls => ?_
    exact hno (call :: before) next rest (by rw [hcalls, List.cons_append])

omit [DecidableEq K] [Kinded E K] in
lemma Fresh.smooth (hfresh : Fresh d options it₀) : it₀.Smooth := by
  rw [Smooth, journal, hfresh.blank.recorded]
  simp

/-- The last publication is that of the current position, in which eventless transitions were cut. -/
def Suspended (it : Interpreter S C E K O) : Prop :=
  ∃ past sent rest, it.journal =
      past ++ .unsettled it.state it.options.maxEventlessSteps ::
        (sent ++ .emitted it.snapshot :: rest) ∧
    (∀ o ∈ sent, o.isReport = true) ∧ ∀ o ∈ rest, o.emitted? = none

omit [DecidableEq S] [Kinded E K] [Label S] [DecidableEq K] in
lemma Suspended.steady (h : it.Suspended) (hsteady : it.Steady it')
    (hoptions : it'.options = it.options) (hjournal : it'.journal = it.journal ++ told)
    (hsilent : ∀ o ∈ told, o.emitted? = none) : it'.Suspended := by
  obtain ⟨past, sent, rest, htold, hsent, hrest⟩ := h
  refine ⟨past, sent, rest ++ told, ?_, hsent, List.forall_mem_append.mpr ⟨hrest, hsilent⟩⟩
  rw [hjournal, htold, hoptions, state, state, hsteady.snapshot]
  simp

omit [DecidableEq S] [Kinded E K] [Label S] [DecidableEq K] in
lemma Suspended.not_smooth (h : it.Suspended) : ¬it.Smooth := by
  intro hsmooth
  obtain ⟨past, sent, rest, hjournal, -⟩ := h
  have hcut := hsmooth (.unsettled it.state it.options.maxEventlessSteps) (by simp [hjournal])
  cases hcut

/-- A running machine is at rest, unless it was suspended. -/
theorem Course.rests_or_suspended (hfresh : Fresh d options it₀) (hcourse : it₀.Course it)
    (hrunning : it.status = .running) : d.rests it.snapshot = true ∨ it.Suspended := by
  induction hcourse with
  | refl =>
    rw [hfresh.blank.status] at hrunning
    cases hrunning
  | @tail here there hcourse hmove ih =>
    obtain ⟨⟨hdefinition, hoptions, -⟩, -⟩ := Course.sound hfresh hcourse
    obtain ⟨⟨-, hoptions', -⟩, -⟩ := Course.sound hfresh (hcourse.tail hmove)
    obtain ⟨told, hjournal, hairing⟩ := hmove.airing
    have hsame : there.options = here.options := hoptions'.trans hoptions.symm
    have hsteady (hsteady : here.Steady there) (hsilent : ∀ o ∈ told, o.emitted? = none) :
        d.rests there.snapshot = true ∨ there.Suspended := by
      refine (ih (hsteady.status.symm.trans hrunning)).imp (fun hrests => ?_) fun h => ?_
      · rwa [hsteady.snapshot]
      · exact h.steady hsteady hsame hjournal hsilent
    cases hairing with
    | quiet hunheard =>
      exact hsteady hunheard.toSteady fun o ho => emitted?_of_not_isNews (hunheard.quiet o ho)
    | @publish cause work after _ hcues hbroadcast =>
      rw [hdefinition, hoptions] at hbroadcast
      refine hbroadcast.candid.imp_right ?_
      rintro ⟨steps, sent, rfl, hsent⟩
      refine ⟨here.journal ++ cause :: steps, sent, after, ?_, hsent,
        fun o ho => emitted?_of_isAside (hbroadcast.isAside o ho)⟩
      rw [hjournal, hoptions']
      simp [state]
    | welcome hwelcoming =>
      cases hwelcoming with
      | enroll _ h => exact hsteady h (by simp)
      | join _ h hreports =>
        exact hsteady h (List.forall_mem_cons.mpr
          ⟨rfl, fun o ho => emitted?_of_isAside (isAside_of_isReport (hreports o ho))⟩)
      | refuse _ h => exact hsteady h (by simp)
    | part id => exact hsteady ⟨rfl, rfl, rfl⟩ (by simp)
    | close _ hstatus =>
      rw [hstatus] at hrunning
      cases hrunning

/-- A running machine is at rest, unless eventless transitions were cut. -/
theorem Course.rests (hfresh : Fresh d options it₀) (hcourse : it₀.Course it)
    (hrunning : it.status = .running) (hsmooth : it.Smooth) : d.rests it.snapshot = true :=
  (Course.rests_or_suspended hfresh hcourse hrunning).resolve_right fun h => h.not_smooth hsmooth

/-- A machine is suspended only if some call has told of a cut. -/
theorem exists_cuts_of_suspended (hfresh : Fresh d options it₀) {calls : List (Call S C E O)}
    (h : (calls.foldl after it₀).Suspended) :
    ∃ before call rest, calls = before ++ call :: rest ∧ (before.foldl after it₀).Cuts call := by
  refine Classical.byContradiction fun hno => h.not_smooth ?_
  exact foldl_after_smooth hfresh.smooth calls fun before call rest hcalls hcuts =>
    hno ⟨before, call, rest, hcalls, hcuts⟩

end

end Interpreter

end Macrostep
