/-
# Genuine snapshots

A snapshot of a machine is genuine if its state is declared and its mark says rightly whether the
state is final (`Definition.Genuine`).  Snapshots are plain values, so nothing in them makes them
genuine; a checkpoint that was written by hand or taken of another machine may bring in any state
and any context.

Whatever a machine that was built lets anyone see is genuine all the same: the current snapshot, the
watched one, what is published, what observers are shown and remember, and what calls give back
(`Interpreter.Course.genuine`).
-/
import Macrostep.Proofs.ObserverViews
import Macrostep.Proofs.Resumption

namespace Macrostep

open Occurrence

variable {S C E K O : Type}

namespace Occurrence

/-- The snapshot that is published, or that an observer is shown. -/
def snapshot? (o : Occurrence S C E O) : Option (Snapshot S C) :=
  o.emitted?.or (o.heard?.map Prod.snd)

lemma snapshot?_eq_some_iff {o : Occurrence S C E O} {s : Snapshot S C} :
    o.snapshot? = some s ↔ o.emitted? = some s ∨ ∃ id, o.heard? = some (id, s) := by
  cases o <;> simp [snapshot?, emitted?, heard?]

lemma snapshot?_of_not_isNews {o : Occurrence S C E O} (h : o.isNews = false) :
    o.snapshot? = none := by
  rw [snapshot?, emitted?_of_not_isNews h, heard?_of_not_isNews h]
  rfl

end Occurrence

/-! ## Transitions between genuine snapshots -/

namespace Definition

variable [DecidableEq S]

/-- The state of the snapshot is declared, and it is marked as final just in case it is. -/
structure Genuine (d : Definition S C E K O) (s : Snapshot S C) : Prop where
  declared : d.contains s.state = true
  done : s.done = d.isFinal s.state

variable [DecidableEq K] [Kinded E K] {d : Definition S C E K O} {s s' : Snapshot S C} {event : E}

/-- An event leads nowhere from a state that is not declared. -/
lemma contains_of_select {state : S} {context : C} {t : Transition S C E O}
    (h : d.select state context event = some t) : d.contains state = true := by
  obtain ⟨node, hnode, -⟩ := Option.bind_eq_some_iff.mp h
  rw [contains, hnode]
  rfl

/-- An event leads from any snapshot to a genuine one. -/
lemma Closed.genuine_transition (hclosed : d.Closed) (h : d.transition s event = some s') :
    d.Genuine s' := by
  obtain ⟨t, hselect, rfl⟩ := Option.map_eq_some_iff.mp h
  constructor
  · exact contains_apply (some event) (fun _ => hclosed.select hselect) (contains_of_select hselect)
  · rfl

end Definition

/-! ## What can be seen of an interpreter -/

namespace Interpreter

variable [DecidableEq S] {it it' it₀ : Interpreter S C E K O} {told : List (Occurrence S C E O)}

/-- What is published and shown in a move is the position before it or the one after it. -/
lemma Airing.snapshots (h : it.Airing told it') {o : Occurrence S C E O} (ho : o ∈ told)
    {s : Snapshot S C} (hs : o.snapshot? = some s) : s = it.snapshot ∨ s = it'.snapshot := by
  have hquiet (hquiet : ∀ o ∈ told, o.isNews = false) : s = it.snapshot ∨ s = it'.snapshot := by
    rw [snapshot?_of_not_isNews (hquiet o ho)] at hs
    cases hs
  cases h with
  | quiet hunheard => exact hquiet hunheard.quiet
  | @publish cause work after it' hcues hbroadcast =>
    right
    simp only [List.mem_cons, List.mem_append] at ho
    rcases ho with rfl | ho | rfl | ho
    · rw [snapshot?, emitted?_of_isCue hcues.isCue, heard?_of_isCue hcues.isCue] at hs
      cases hs
    · rw [snapshot?_of_not_isNews (isNews_of_isWork (hbroadcast.isWork o ho))] at hs
      cases hs
    · exact (Option.some.inj hs).symm
    · -- behind the publication there is only what the observers are shown
      rcases snapshot?_eq_some_iff.mp hs with hemitted | ⟨id, hheard⟩
      · rw [emitted?_of_isAside (hbroadcast.isAside o ho)] at hemitted
        cases hemitted
      · have hmem : (id, s) ∈ after.filterMap heard? := List.mem_filterMap.mpr ⟨o, ho, hheard⟩
        rw [hbroadcast.heard, List.mem_map] at hmem
        obtain ⟨_, -, heq⟩ := hmem
        exact (congrArg Prod.snd heq).symm
  | welcome hwelcoming =>
    cases hwelcoming with
    | enroll => cases ho
    | join hstatus hsteady hreports =>
      rcases List.mem_cons.mp ho with rfl | ho
      · exact .inl (Option.some.inj hs).symm
      · rw [snapshot?_of_not_isNews (isNews_of_isReport (hreports o ho))] at hs
        cases hs
    | refuse => cases ho
  | part => cases ho
  | close hnobody => exact hquiet hnobody

variable [Label S] [DecidableEq K] [Kinded E K]

/-- A call that starts the machine gives back the position in which it leaves it. -/
lemma start_snapshot {budget : Nat} {s : Snapshot S C} (h : (it.start budget).2 = .ok s) :
    s = (it.start budget).1.snapshot := by
  cases hstatus : it.status with
  | running =>
    rw [start_of_running hstatus] at h ⊢
    exact (Except.ok.inj h).symm
  | stopped =>
    rw [start_of_stopped hstatus] at h ⊢
    exact (Except.ok.inj h).symm
  | notStarted =>
    cases hbooting : it.booting.2 with
    | error error =>
      rw [start_of_error hstatus hbooting] at h
      cases h
    | ok u =>
      rw [start_of_ok hstatus hbooting] at h ⊢
      cases hdrain : (it.booted.drain budget).2 with
      | error error =>
        rw [hdrain] at h
        cases h
      | ok u =>
        rw [hdrain] at h
        exact (Except.ok.inj h).symm

/-- A call that resolves events gives back the position in which it leaves the machine. -/
lemma processNext_snapshot {budget : Nat} {s : Snapshot S C}
    (h : (it.processNext budget).2 = .settled s) : s = (it.processNext budget).1.snapshot := by
  obtain ⟨-, -, hlast, hs⟩ := drain_of_settled h
  rw [hlast, hs]

/-- An interpreter of a closed machine stands at a genuine snapshot at any time. -/
lemma Course.genuine_snapshot {d : Definition S C E K O} {options : Options} (hclosed : d.Closed)
    (hfresh : Fresh d options it₀) (hcourse : it₀.Course it) : d.Genuine it.snapshot := by
  obtain ⟨hsound, -⟩ := Course.sound hfresh hcourse
  constructor
  · exact hcourse.declared hclosed hfresh
  · have hproper := hsound.proper
    rwa [Proper, state, hsound.definition] at hproper

/-- Nothing but genuine snapshots is published and shown. -/
lemma Course.genuine_journal {d : Definition S C E K O} {options : Options} (hclosed : d.Closed)
    (hfresh : Fresh d options it₀) (hcourse : it₀.Course it) :
    ∀ o ∈ it.journal, ∀ s, o.snapshot? = some s → d.Genuine s := by
  induction hcourse with
  | refl =>
    rw [journal, hfresh.blank.recorded]
    simp
  | tail hbefore hmove ih =>
    obtain ⟨told, hjournal, hairing⟩ := hmove.airing
    have hfirst := Course.genuine_snapshot hclosed hfresh hbefore
    have hlast := Course.genuine_snapshot hclosed hfresh (hbefore.tail hmove)
    intro o ho s hs
    rw [hjournal, List.mem_append] at ho
    rcases ho with ho | ho
    · exact ih o ho s hs
    · rcases hairing.snapshots ho hs with rfl | rfl
      · exact hfirst
      · exact hlast

/-- **Whatever can be seen of a machine that was built is genuine**, from its beginning or from any
checkpoint at all, and whatever happens to it: the position at which it stands, the watched value,
what was published and what observers were shown, what they remember, and what the calls give back.
The one-step preview does not lead anywhere else, from whatever snapshot it begins. -/
theorem Course.genuine {draft : Draft S C E K O} {d : Definition S C E K O} {options : Options}
    (hbuild : draft.build = .ok d) (hfresh : Fresh d options it₀) (hcourse : it₀.Course it) :
    it.definition = d ∧ d.Genuine it.snapshot ∧ d.Genuine it.watched.value ∧
      (∀ o ∈ it.journal, ∀ s, o.snapshot? = some s → d.Genuine s) ∧
      (∀ o ∈ it.subscribers, ∀ s ∈ o.seen, d.Genuine s) ∧
      (∀ budget s, (it.start budget).2 = .ok s → d.Genuine s) ∧
      (∀ budget s, (it.processNext budget).2 = .settled s → d.Genuine s) ∧
      ∀ s event s', d.transition s event = some s' → d.Genuine s' := by
  have hclosed := Draft.closed_of_build hbuild
  have hattentive := Course.attentive hfresh hcourse
  have hjournal := hcourse.genuine_journal hclosed hfresh
  refine ⟨(Course.sound hfresh hcourse).1.definition, hcourse.genuine_snapshot hclosed hfresh, ?_,
    hjournal, ?_, ?_, ?_, ?_⟩
  · rw [hattentive.watched]
    exact hcourse.genuine_snapshot hclosed hfresh
  · -- what an observer remembers stands in the journal
    intro o ho s hs
    rw [← List.mem_reverse, hattentive.seen o ho] at hs
    obtain ⟨occurrence, hmem, hshown⟩ := List.mem_filterMap.mp hs
    obtain ⟨⟨id, s'⟩, hheard, hsame⟩ := Option.bind_eq_some_iff.mp hshown
    obtain rfl : s' = s := by
      change (if id = o.id then some s' else none) = some s at hsame
      split at hsame
      · exact Option.some.inj hsame
      · cases hsame
    exact hjournal occurrence hmem s' (snapshot?_eq_some_iff.mpr (.inr ⟨id, hheard⟩))
  · intro budget s hs
    rw [start_snapshot hs]
    exact Course.genuine_snapshot hclosed hfresh (hcourse.trans (Course.start it budget))
  · intro budget s hs
    rw [processNext_snapshot hs]
    exact Course.genuine_snapshot hclosed hfresh (hcourse.trans (Course.processNext it budget))
  · intro s event s'
    exact hclosed.genuine_transition

end Interpreter

namespace Lamp

open Interpreter

/-- A checkpoint that was written by hand: the lamp never rests while it is warm. -/
def forged : Checkpoint State Int64 where
  version := 1
  id := "forged"
  timestamp := .ofNanos 0
  machine := "dimmer"
  state := .warm
  context := -7
  history := {}

end Lamp

open Lamp in
/-- The lamp that goes on from a forged checkpoint. -/
theorem Interpreter.Course.genuine_lamp :
    ∃ it₀, resume dimmer.compile forged {} = .ok it₀ ∧
      ((it₀.start 1).1.send 9 .press).1.snapshot = ⟨.off, -5, false⟩ ∧
      dimmer.compile.Genuine ((it₀.start 1).1.send 9 .press).1.snapshot := by
  have hbuild : dimmer.build = .ok dimmer.compile := rfl
  have hvalid : forged.validate dimmer.compile = .ok () := rfl
  have hresume := resume_of_validate hvalid {}
  have hcourse := (Course.start _ 1).trans
    (Course.send ((placed dimmer.compile {} ⟨.warm, -7, false⟩ {}).start 1).1 9 .press)
  obtain ⟨-, hgenuine, -⟩ := Course.genuine hbuild (.resumed 0 true hresume) hcourse
  exact ⟨_, hresume, rfl, hgenuine⟩

end Macrostep
