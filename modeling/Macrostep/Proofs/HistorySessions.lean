/-
# Histories across sessions

A machine may go through many sessions.  The first one begins at the beginning, and each later one
at a checkpoint that was taken in the session before it, under options of its own.  Over all of them
the machine takes one walk, and each session inherits the history that its checkpoint carries.

No history tells of anything but hops that the machine took: it is the end of what was recorded, all
sessions taken together.  It is the end of the whole walk, and so it leads to the state of the
checkpoint, as long as nothing was passed over in silence.  That happens only in a session that does
not record, where the machine moves on while the session holds on to a history that it has inherited
(`Interpreter.checkpoint_history`).
-/
import Macrostep.Proofs.HistoryPath

namespace Macrostep

variable {S C E K O : Type}

/-! ## Walks over sessions -/

/-- A session up to some moment, as far as its history is concerned. -/
structure Session (S : Type) where
  /-- Whether it records hops. -/
  recording : Bool
  /-- The history that it began with. -/
  inherited : List (Hop S)
  /-- The hops that the machine took in it. -/
  hops : List (Hop S)

/-- Whether a session keeps the history that it holds up to date: it records, or it holds none, or
nothing happens. -/
def Session.Faithful (session : Session S) : Prop :=
  session.recording = true ∨ session.inherited = [] ∨ session.hops = []

/-- The hops that the machine took, all sessions taken together. -/
def wholeWalk (sessions : List (Session S)) : List (Hop S) := sessions.flatMap Session.hops

/-- The hops that were recorded, all sessions taken together. -/
def recordedWalk (sessions : List (Session S)) : List (Hop S) :=
  (sessions.filter Session.recording).flatMap Session.hops

lemma wholeWalk_concat (sessions : List (Session S)) (session : Session S) :
    wholeWalk (sessions ++ [session]) = wholeWalk sessions ++ session.hops := by
  simp [wholeWalk]

lemma recordedWalk_concat (sessions : List (Session S)) (session : Session S) :
    recordedWalk (sessions ++ [session]) =
      recordedWalk sessions ++ if session.recording then session.hops else [] := by
  cases h : session.recording <;> simp [recordedWalk, h]

/-- What is dropped from a history is dropped at its beginning. -/
lemma Options.foldl_retain_suffix (options : Options) (past way : List (Hop S)) :
    way.foldl options.retain past <:+ past ++ if options.recordHistory then way else [] := by
  cases hrecording : options.recordHistory with
  | false =>
    have hretain : options.retain = fun (past : List (Hop S)) _ => past := by
      funext past hop
      simp [retain, hrecording]
    rw [hretain]
    induction way generalizing past with
    | nil => simp
    | cons hop way ih => exact ih past
  | true =>
    induction way generalizing past with
    | nil => simp
    | cons hop way ih =>
      -- what is left after the first hop is followed by the others
      have hfirst : options.retain past hop <:+ past ++ [hop] := by
        rw [retain, if_pos hrecording]
        exact List.drop_suffix ..
      obtain ⟨dropped, hdropped⟩ := hfirst
      refine (ih (options.retain past hop)).trans ⟨dropped, ?_⟩
      simp only [if_true]
      rw [← List.append_assoc, hdropped, List.append_assoc]
      rfl

namespace Interpreter

variable [DecidableEq S] [Label S] [DecidableEq K] [Kinded E K] {d : Definition S C E K O}
  {options : Options} {it it₀ : Interpreter S C E K O} {past : List (Session S)}

/-! ## Chains of sessions -/

/-- The session that began with `it₀` and has come to `it`. -/
def session (it₀ it : Interpreter S C E K O) : Session S where
  recording := it₀.options.recordHistory
  inherited := it₀.history.undated
  hops := it.hops

/-- A chain of sessions of a machine: those that are past, and the interpreter with which the present
one begins. -/
inductive Sessions (d : Definition S C E K O) : List (Session S) → Interpreter S C E K O → Prop
  /-- The first session begins at the beginning of the machine. -/
  | first (options : Options) (now : Nat) (timers : Bool) :
    Sessions d [] { Interpreter.new d options with now, timers }
  /-- The next one begins at a checkpoint of the present one. -/
  | next {past : List (Session S)} {it₀ it it₁ : Interpreter S C E K O} {id : String}
      {options : Options} (hpast : Sessions d past it₀) (hcourse : it₀.Course it)
      (hresume : resume d (it.checkpoint id) options = .ok it₁) (now : Nat) (timers : Bool) :
      Sessions d (past ++ [it₀.session it]) { it₁ with now, timers }

/-- What is known of a history after some sessions. -/
structure Carries (d : Definition S C E K O) (sessions : List (Session S))
    (it : Interpreter S C E K O) : Prop where
  recorded : it.history.undated <:+ recordedWalk sessions
  leads : Leads d.initial (wholeWalk sessions) it.state
  walked : (∀ session ∈ sessions, session.Faithful) →
    it.history.undated <:+ wholeWalk sessions

/-- A session carries on the history with which it begins. -/
lemma Carries.course (h : Carries d past it₀) (hfresh : Fresh d options it₀)
    (hcourse : it₀.Course it) : Carries d (past ++ [it₀.session it]) it := by
  obtain ⟨-, hhistory, hleads⟩ := Course.itinerary hfresh hcourse
  rw [← hfresh.blank.options] at hhistory
  have hsuffix := it₀.options.foldl_retain_suffix it₀.history.undated it.hops
  rw [← hhistory] at hsuffix
  -- what is appended at the end of a list stands at the end of every list that it ends
  have hextend {ending whole more : List (Hop S)} (hending : ending <:+ whole) :
      ending ++ more <:+ whole ++ more := by
    obtain ⟨before, rfl⟩ := hending
    exact ⟨before, (List.append_assoc ..).symm⟩
  refine ⟨?_, ?_, fun hfaithful => ?_⟩
  · rw [recordedWalk_concat]
    exact hsuffix.trans (hextend h.recorded)
  · rw [wholeWalk_concat]
    exact h.leads.append hleads
  · rw [List.forall_mem_append, List.forall_mem_singleton] at hfaithful
    obtain ⟨hbefore, hnow⟩ := hfaithful
    rw [wholeWalk_concat]
    cases hrecording : it₀.options.recordHistory with
    | true =>
      rw [hrecording, if_pos rfl] at hsuffix
      exact hsuffix.trans (hextend (h.walked hbefore))
    | false =>
      simp only [hrecording, Bool.false_eq_true, if_false, List.append_nil] at hsuffix
      rcases hnow with hrecords | hnone | hnone
      · exact absurd (hrecording.symm.trans hrecords) nofun
      · rw [show it₀.history.undated = [] from hnone, List.suffix_nil] at hsuffix
        rw [hsuffix]
        exact List.nil_suffix
      · rw [hnone, List.append_nil]
        exact hsuffix.trans (h.walked hbefore)

/-- Every session of a chain begins afresh, and carries on what those before it have left. -/
theorem Sessions.carries (h : Sessions d past it₀) :
    (∃ options, Fresh d options it₀) ∧ Carries d past it₀ := by
  induction h with
  | first options now timers =>
    exact ⟨⟨options, .new now timers⟩, List.suffix_rfl, .nil _, fun _ => List.suffix_rfl⟩
  | next hpast hcourse hresume now timers ih =>
    obtain ⟨⟨options, hfresh⟩, hcarries⟩ := ih
    have hcarried := hcarries.course hfresh hcourse
    refine ⟨⟨_, .resumed now timers hresume⟩, ?_⟩
    -- the checkpoint hands over the state and the history
    obtain ⟨-, rfl⟩ := validate_of_resume hresume
    exact ⟨hcarried.recorded, hcarried.leads, hcarried.walked⟩

/-- **The history of a checkpoint**, in any session of a chain and at any time, is the end of what
was recorded in all of them together, so it tells of nothing but hops that the machine took.

If every session was faithful, it is the end of the whole walk of the machine.  Then each entry
begins where the one before it ends, the last one ends at the state of the checkpoint, and the path
is the one on which the machine got there. -/
theorem checkpoint_history (hsessions : Sessions d past it₀) (hcourse : it₀.Course it)
    (id : String) :
    let sessions := past ++ [it₀.session it]
    let cp := it.checkpoint id
    Leads d.initial (wholeWalk sessions) cp.state ∧
      cp.history.undated <:+ recordedWalk sessions ∧
      ((∀ session ∈ sessions, session.Faithful) →
        cp.history.undated <:+ wholeWalk sessions ∧
          ∃ s, Leads s cp.history.undated cp.state ∧
            cp.history.path = pathFrom s cp.history.undated) := by
  obtain ⟨⟨options, hfresh⟩, hcarries⟩ := hsessions.carries
  have hcarried := hcarries.course hfresh hcourse
  refine ⟨hcarried.leads, hcarried.recorded, fun hfaithful => ?_⟩
  have hwalked := hcarried.walked hfaithful
  obtain ⟨s, hleads⟩ := hcarried.leads.of_suffix hwalked
  exact ⟨hwalked, s, hleads, History.path_of_leads hleads⟩

end Interpreter

/-! ## Sessions of the lamp -/

namespace Lamp

open Interpreter

/-- The lamp that goes on from where it was pressed, under other options. -/
def resumed (options : Options) : Interpreter State Nat Event Event Unit :=
  placed lamp options pressed.snapshot pressed.history

/-- The lamp that goes on and is pressed again. -/
def repressed (options : Options) : Interpreter State Nat Event Event Unit :=
  (((resumed options).start 9).1.send 9 .press).1

lemma resumed_sessions (options : Options) :
    Sessions lamp [(Interpreter.new lamp).session pressed] (resumed options) := by
  have hfirst : Sessions lamp [] (Interpreter.new lamp) := .first {} 0 true
  have hresume : resume lamp (pressed.checkpoint "lamp") options = .ok (resumed options) := rfl
  exact .next hfirst pressed_course hresume 0 true

lemma repressed_course (options : Options) : (resumed options).Course (repressed options) :=
  (Interpreter.Course.start (resumed options) 9).trans
    (Interpreter.Course.send ((resumed options).start 9).1 9 Event.press)

end Lamp

open Lamp in
/-- The lamp is pressed in a first session and again in a second one, which records two hops at
most: its history is the end of the walk over both. -/
theorem Interpreter.checkpoint_history_lamp :
    let options : Options := { historyLimit := some 2 }
    let sessions := [(Interpreter.new lamp).session pressed,
      (resumed options).session (repressed options)]
    let cp := (repressed options).checkpoint "lamp"
    (∀ session ∈ sessions, session.Faithful) ∧
      wholeWalk sessions =
        [(.off, .warm, some "Press"), (.warm, .on, none), (.on, .off, some "Press")] ∧
      cp.history.undated <:+ wholeWalk sessions ∧
      cp.history.path = [.warm, .on, .off] ∧ cp.state = .off := by
  intro options sessions cp
  have hfaithful : ∀ session ∈ sessions, session.Faithful := by
    simp only [sessions, List.mem_cons, List.not_mem_nil, or_false, forall_eq_or_imp, forall_eq]
    exact ⟨.inl rfl, .inl rfl⟩
  obtain ⟨-, -, hwalk⟩ :=
    checkpoint_history (resumed_sessions options) (repressed_course options) "lamp"
  exact ⟨hfaithful, by decide, (hwalk hfaithful).1, by decide, by decide⟩

open Lamp in
/-- A session without recording leaves a history behind that ends where the lamp is no more. -/
theorem Interpreter.unrecorded_session_lamp :
    let cp := (repressed { recordHistory := false }).checkpoint "lamp"
    Sessions lamp [(Interpreter.new lamp).session pressed] (resumed { recordHistory := false }) ∧
      (resumed { recordHistory := false }).Course (repressed { recordHistory := false }) ∧
      cp.history.undated = [(.off, .warm, some "Press"), (.warm, .on, none)] ∧
      cp.state = .off ∧ ¬ ∃ s, Leads s cp.history.undated cp.state := by
  refine ⟨resumed_sessions _, repressed_course _, by decide, by decide, ?_⟩
  rintro ⟨s, hleads⟩
  have hlast := hleads.isChain.2.2 (.warm, .on, none) (by decide)
  exact absurd hlast (by decide)

end Macrostep
