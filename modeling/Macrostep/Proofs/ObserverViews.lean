/-
# What an observer is shown

In every interpreter the audience is in order (`Interpreter.Attentive`): the numbers of
subscriptions grow and are never used twice, every observer remembers what the journal tells that
it was shown, and the watched value is the current position.

So an observer is shown the current position when it comes, if the machine runs then, and every
position that is published until it goes or the machine is stopped, whoever else comes and goes
meanwhile (`Interpreter.Attended`).
-/
import Macrostep.Proofs.Observers

namespace Macrostep

open Occurrence

namespace Interpreter

variable {S C E K O : Type} {it it' : Interpreter S C E K O} {told : List (Occurrence S C E O)}

/-! ## The audience is in order -/

section

variable {s : Snapshot S C} {ids : List Nat}

/-- Whoever is in the audience is shown a broadcast once, and nobody else is shown anything. -/
lemma shown_of_heard {after : List (Occurrence S C E O)} (hnodup : ids.Nodup)
    (hheard : after.filterMap heard? = ids.map fun id => (id, s)) (id : Nat) :
    after.filterMap (shown? id) = if id ∈ ids then [s] else [] := by
  rw [filterMap_shown?, hheard]
  clear hheard
  induction ids with
  | nil => rfl
  | cons first ids ih =>
    rw [List.nodup_cons] at hnodup
    rw [List.map_cons, List.filterMap_cons, ih hnodup.2]
    by_cases hfirst : first = id
    · have hrest : id ∉ ids := hfirst ▸ hnodup.1
      simp [hfirst, hrest]
    · simp [hfirst, Ne.symm hfirst]

variable [DecidableEq S] {d : Definition S C E K O} {limit : Nat} {cause : Occurrence S C E O}
  {work after : List (Occurrence S C E O)}

/-- What is told of the start or of an event that is handled shows the position to the audience. -/
lemma shown_of_broadcast (hnodup : ids.Nodup) (hcause : cause.isCue = true)
    (h : Broadcast d limit ids work s after) (id : Nat) :
    (cause :: (work ++ .emitted s :: after)).filterMap (shown? id) =
      if id ∈ ids then [s] else [] := by
  have hwork : work.filterMap (shown? id) = [] :=
    shown_of_quiet (fun o ho => isNews_of_isWork (h.isWork o ho)) id
  rw [List.filterMap_cons_none (shown?_of_heard?_eq_none (heard?_of_isCue hcause) id),
    List.filterMap_append, hwork, List.filterMap_cons_none (shown?_of_heard?_eq_none rfl id),
    shown_of_heard hnodup h.heard]
  rfl

/-- It publishes the position once. -/
lemma emitted_of_broadcast (hcause : cause.isCue = true) (h : Broadcast d limit ids work s after) :
    (cause :: (work ++ .emitted s :: after)).filterMap emitted? = [s] := by
  have hwork : work.filterMap emitted? = [] :=
    filterMap_eq_nil_of_class (fun _ => emitted?_of_isWork) h.isWork
  have hafter : after.filterMap emitted? = [] :=
    filterMap_eq_nil_of_class (fun _ => emitted?_of_isAside) h.isAside
  rw [List.filterMap_cons_none (emitted?_of_isCue hcause), List.filterMap_append, hwork,
    List.filterMap_cons_some (f := emitted?) rfl, hafter]
  rfl

end

/-- What a newcomer is shown at once. -/
def welcomed (it : Interpreter S C E K O) : List (Snapshot S C) :=
  if it.status = .running then [it.snapshot] else []

/-- A newcomer alone is shown the current position, if the machine runs. -/
lemma Welcoming.shown {react : Observer S C E O} (h : it.Welcoming react told it') (id : Nat) :
    told.filterMap (shown? id) = if it.nextSubscription = id then it.welcomed else [] := by
  cases h with
  | enroll hstatus => simp [welcomed, hstatus]
  | join hstatus hsteady hreports =>
    have hquiet := shown_of_quiet (fun o ho => isNews_of_isReport (hreports o ho)) id
    rw [List.filterMap_cons, hquiet]
    by_cases h : it.nextSubscription = id
    · simp [shown?, heard?, h, welcomed, hstatus]
    · simp [shown?, heard?, h]
  | refuse hstatus => simp [welcomed, hstatus]

lemma Welcoming.emitted {react : Observer S C E O} (h : it.Welcoming react told it') :
    told.filterMap emitted? = [] := by
  cases h with
  | enroll => rfl
  | join hstatus hsteady hreports =>
    rw [List.filterMap_cons_none rfl]
    exact emitted_of_quiet fun o ho => isNews_of_isReport (hreports o ho)
  | refuse => rfl

/-- Whom a newcomer finds stays, and until the stop the newcomer stays as well. -/
lemma Welcoming.mem_audience {react : Observer S C E O} (h : it.Welcoming react told it')
    {id : Nat} :
    id ∈ it'.audience ↔ id ∈ it.audience ∨ it.status ≠ .stopped ∧ id = it.nextSubscription := by
  cases h with
  | enroll hstatus hsteady hsubscribers => simp [audience, hsubscribers, hstatus]
  | join hstatus hsteady hreports hsubscribers => simp [audience, hsubscribers, hstatus]
  | refuse hstatus hsteady hsubscribers => simp [audience, hsubscribers, hstatus]

lemma Welcoming.status {react : Observer S C E O} (h : it.Welcoming react told it') :
    it'.status = it.status := by
  cases h with
  | enroll _ hsteady => exact hsteady.status
  | join _ hsteady => exact hsteady.status
  | refuse _ hsteady => exact hsteady.status

lemma Welcoming.nextSubscription {react : Observer S C E O} (h : it.Welcoming react told it') :
    it'.nextSubscription = it.nextSubscription + 1 := by
  cases h with
  | enroll _ _ _ hnext => exact hnext
  | join _ _ _ _ hnext => exact hnext
  | refuse _ _ _ hnext => exact hnext

/-- Who has seen something more is still the same. -/
lemma audience_of_seen {s : Snapshot S C}
    (h : it'.subscribers = it.subscribers.map fun o => { o with seen := s :: o.seen }) :
    it'.audience = it.audience := by
  rw [audience, h, List.map_map]
  rfl

/-- The numbers of subscriptions grow, and none is used before its time; every observer remembers
what it was shown; the watched value is the current position; after the stop there is nobody. -/
structure Attentive (it : Interpreter S C E K O) : Prop where
  numbers : it.audience.Pairwise (· < ·)
  used : ∀ id ∈ it.audience, id < it.nextSubscription
  heard : ∀ id, it.nextSubscription ≤ id → it.journal.filterMap (shown? id) = []
  seen : ∀ o ∈ it.subscribers, o.seen.reverse = it.journal.filterMap (shown? o.id)
  watched : it.watched.value = it.snapshot
  closed : it.status = .stopped → it.subscribers = []

namespace Attentive

lemma nodup (h : it.Attentive) : it.audience.Nodup :=
  h.numbers.imp fun hlt => Nat.ne_of_lt hlt

lemma id_lt (h : it.Attentive) {o : Subscriber S C E O} (ho : o ∈ it.subscribers) :
    o.id < it.nextSubscription :=
  h.used o.id (List.mem_map_of_mem ho)

/-- A newcomer takes the next number, and nobody who was there is shown anything. -/
lemma welcome {react : Observer S C E O} {seen : List (Snapshot S C)} (h : it.Attentive)
    (hjournal : it'.journal = it.journal ++ told) (hsteady : it.Steady it')
    (hsubscribers : it'.subscribers = it.subscribers ++ [⟨it.nextSubscription, react, seen⟩])
    (hnext : it'.nextSubscription = it.nextSubscription + 1)
    (hrunning : it.status ≠ .stopped)
    (htold : ∀ id, told.filterMap (shown? id) =
      if it.nextSubscription = id then seen.reverse else []) : it'.Attentive where
  numbers := by
    rw [audience, hsubscribers, List.map_append, List.pairwise_append]
    refine ⟨h.numbers, List.pairwise_singleton _ _, fun id hid id' hid' => ?_⟩
    rw [List.mem_singleton.mp hid']
    exact h.used id hid
  used id hid := by
    rw [audience, hsubscribers, List.map_append, List.mem_append] at hid
    rw [hnext]
    rcases hid with hid | hid
    · exact Nat.lt_succ_of_lt (h.used id hid)
    · rw [List.mem_singleton.mp hid]
      exact Nat.lt_succ_self _
  heard id hid := by
    rw [hnext] at hid
    rw [hjournal, List.filterMap_append, h.heard id (by omega), htold, if_neg (by omega)]
    rfl
  seen o ho := by
    rw [hsubscribers, List.mem_append] at ho
    rw [hjournal, List.filterMap_append, htold]
    rcases ho with ho | ho
    · have hlt := h.id_lt ho
      rw [if_neg (by omega), List.append_nil]
      exact h.seen o ho
    · rw [List.mem_singleton.mp ho, h.heard _ (Nat.le_refl _), if_pos rfl]
      rfl
  watched := by rw [hsteady.watched, hsteady.snapshot, h.watched]
  closed hstopped := absurd (hsteady.status.symm.trans hstopped) hrunning

/-- Nobody is told anything and nobody comes, but somebody may go. -/
lemma dwindle (h : it.Attentive) (hjournal : it'.journal = it.journal ++ told)
    (hquiet : ∀ o ∈ told, o.isNews = false) (hsub : it'.subscribers.Sublist it.subscribers)
    (hnext : it.nextSubscription ≤ it'.nextSubscription) (hsnapshot : it'.snapshot = it.snapshot)
    (hwatched : it'.watched = it.watched)
    (hclosed : it'.status = .stopped → it'.subscribers = []) : it'.Attentive where
  numbers := h.numbers.sublist (hsub.map Subscriber.id)
  used id hid := Nat.lt_of_lt_of_le (h.used id ((hsub.map Subscriber.id).subset hid)) hnext
  heard id hid := by
    rw [hjournal, List.filterMap_append, h.heard id (Nat.le_trans hnext hid),
      shown_of_quiet hquiet]
    rfl
  seen o ho := by
    rw [hjournal, List.filterMap_append, shown_of_quiet hquiet, List.append_nil]
    exact h.seen o (hsub.subset ho)
  watched := by rw [hwatched, hsnapshot, h.watched]
  closed := hclosed

/-- The position is published to everybody. -/
lemma publish [DecidableEq S] {d : Definition S C E K O} {limit : Nat}
    {cause : Occurrence S C E O} {work after : List (Occurrence S C E O)} (h : it.Attentive)
    (hjournal : it'.journal = it.journal ++ cause :: (work ++ .emitted it'.snapshot :: after))
    (hcause : cause.isCue = true)
    (hbroadcast : Broadcast d limit it.audience work it'.snapshot after)
    (hrunning : it'.status = .running) (hwatched : it'.watched.value = it'.snapshot)
    (hsubscribers : it'.subscribers =
      it.subscribers.map fun o => { o with seen := it'.snapshot :: o.seen })
    (hnext : it'.nextSubscription = it.nextSubscription) : it'.Attentive := by
  have haudience : it'.audience = it.audience := audience_of_seen hsubscribers
  have hshown := shown_of_broadcast h.nodup hcause hbroadcast
  exact
    { numbers := haudience ▸ h.numbers
      used := by
        rw [haudience, hnext]
        exact h.used
      heard := fun id hid => by
        rw [hnext] at hid
        have hout : id ∉ it.audience := fun hmem => absurd (h.used id hmem) (by omega)
        rw [hjournal, List.filterMap_append, h.heard id hid, hshown, if_neg hout]
        rfl
      seen := fun o ho => by
        rw [hsubscribers] at ho
        obtain ⟨before, hbefore, rfl⟩ := List.mem_map.mp ho
        have hin : before.id ∈ it.audience := List.mem_map_of_mem hbefore
        dsimp only
        rw [hjournal, List.filterMap_append, hshown, if_pos hin, ← h.seen before hbefore,
          List.reverse_cons]
      watched := hwatched
      closed := fun hstopped => by
        rw [hrunning] at hstopped
        cases hstopped }

/-- Every move keeps the audience in order. -/
theorem airing [DecidableEq S] (h : it.Attentive) (hjournal : it'.journal = it.journal ++ told)
    (hairing : it.Airing told it') : it'.Attentive := by
  cases hairing with
  | quiet hunheard =>
    have hclosed (hstopped : it'.status = .stopped) : it'.subscribers = [] :=
      hunheard.subscribers.trans (h.closed (hunheard.status.symm.trans hstopped))
    exact h.dwindle hjournal hunheard.quiet (hunheard.subscribers ▸ .refl _)
      (Nat.le_of_eq hunheard.nextSubscription.symm) hunheard.snapshot hunheard.watched hclosed
  | publish hcues hbroadcast hstatus hwatched hsubscribers hnext =>
    exact h.publish hjournal hcues.isCue hbroadcast hstatus (congrArg Watched.value hwatched)
      hsubscribers hnext
  | welcome hwelcoming =>
    have hshown := hwelcoming.shown
    cases hwelcoming with
    | enroll hstatus hsteady hsubscribers hnext =>
      exact h.welcome hjournal hsteady hsubscribers hnext (by rw [hstatus]; nofun) (by simp)
    | join hstatus hsteady hreports hsubscribers hnext =>
      rw [welcomed, if_pos hstatus] at hshown
      exact h.welcome hjournal hsteady hsubscribers hnext (by rw [hstatus]; nofun) hshown
    | refuse hstatus hsteady hsubscribers hnext =>
      exact h.dwindle hjournal (by simp) (hsubscribers ▸ .refl _) (by omega) hsteady.snapshot
        hsteady.watched fun _ => hsubscribers.trans (h.closed hstatus)
  | part id =>
    have hclosed (hstopped : it.status = .stopped) : (it.unsubscribe id).1.subscribers = [] := by
      simp [unsubscribe, h.closed hstopped]
    exact h.dwindle hjournal (by simp) List.filter_sublist (Nat.le_refl _) rfl rfl hclosed
  | close hquiet hstatus hsnapshot hwatched hsubscribers hnext =>
    have hsub : it.stop.1.subscribers.Sublist it.subscribers :=
      hsubscribers ▸ List.nil_sublist _
    exact h.dwindle hjournal hquiet hsub (Nat.le_of_eq hnext.symm) hsnapshot hwatched
      fun _ => hsubscribers

end Attentive

/-- Whoever has just been made has no audience. -/
lemma Fresh.attentive [DecidableEq S] [Label S] {d : Definition S C E K O} {options : Options}
    (h : Fresh d options it) : it.Attentive := by
  have hsubscribers : it.subscribers = [] ∧ it.watched.value = it.snapshot := by
    obtain ⟨now, timers, hplaced⟩ := h.exists_placed
    rw [hplaced]
    exact ⟨rfl, rfl⟩
  have hblank := h.blank
  refine ⟨?_, ?_, ?_, ?_, hsubscribers.2, fun _ => hsubscribers.1⟩
  · rw [audience, hsubscribers.1]
    exact List.Pairwise.nil
  · rw [audience, hsubscribers.1]
    simp
  · intro id _
    rw [journal, hblank.recorded]
    rfl
  · rw [hsubscribers.1]
    simp

/-! ## From coming to going -/

/-- The move from `it` to `it'` ends the subscription with a number: the observer goes, or the
machine is stopped. -/
def Ends (id : Nat) (it it' : Interpreter S C E K O) : Prop :=
  it' = (it.unsubscribe id).1 ∨ it' = it.stop.1

/-- The observer with the number is there no more and never will be. -/
structure Gone (id : Nat) (it : Interpreter S C E K O) : Prop where
  absent : id ∉ it.audience
  used : id < it.nextSubscription

/-- The observer with the number is there, unless there is nothing to come for. -/
structure Present (id : Nat) (it : Interpreter S C E K O) : Prop where
  here : it.status ≠ .stopped → id ∈ it.audience
  used : id < it.nextSubscription

section

variable {id : Nat}

lemma Airing.nextSubscription_le [DecidableEq S] (h : it.Airing told it') :
    it.nextSubscription ≤ it'.nextSubscription := by
  cases h with
  | quiet hunheard => exact Nat.le_of_eq hunheard.nextSubscription.symm
  | publish _ _ _ _ _ hnext => exact Nat.le_of_eq hnext.symm
  | welcome hwelcoming => exact hwelcoming.nextSubscription ▸ Nat.le_succ _
  | part id => exact Nat.le_refl _
  | close _ _ _ _ _ hnext => exact Nat.le_of_eq hnext.symm

lemma mem_audience_unsubscribe (other : Nat) :
    id ∈ (it.unsubscribe other).1.audience ↔ id ∈ it.audience ∧ id ≠ other := by
  simp only [audience, unsubscribe, List.mem_map, List.mem_filter, decide_eq_true_eq]
  constructor
  · rintro ⟨o, ⟨ho, hne⟩, rfl⟩
    exact ⟨⟨o, ho, rfl⟩, hne⟩
  · rintro ⟨⟨o, ho, rfl⟩, hne⟩
    exact ⟨o, ⟨ho, hne⟩, rfl⟩

/-- Nothing is shown any more to an observer that is gone. -/
lemma Gone.airing [DecidableEq S] (h : it.Gone id) (hattentive : it.Attentive)
    (hairing : it.Airing told it') : it'.Gone id ∧ told.filterMap (shown? id) = [] := by
  have hused := Nat.lt_of_lt_of_le h.used hairing.nextSubscription_le
  cases hairing with
  | quiet hunheard =>
    refine ⟨⟨?_, hused⟩, shown_of_quiet hunheard.quiet id⟩
    rw [audience, hunheard.subscribers]
    exact h.absent
  | publish hcues hbroadcast hstatus hwatched hsubscribers hnext =>
    have hshown := shown_of_broadcast hattentive.nodup hcues.isCue hbroadcast id
    rw [if_neg h.absent] at hshown
    exact ⟨⟨audience_of_seen hsubscribers ▸ h.absent, hused⟩, hshown⟩
  | welcome hwelcoming =>
    have hshown := hwelcoming.shown id
    rw [if_neg (Nat.ne_of_gt h.used)] at hshown
    refine ⟨⟨?_, hused⟩, hshown⟩
    rw [hwelcoming.mem_audience, not_or]
    exact ⟨h.absent, fun hnew => absurd hnew.2 (Nat.ne_of_lt h.used)⟩
  | part other =>
    refine ⟨⟨?_, hused⟩, rfl⟩
    rw [mem_audience_unsubscribe]
    exact fun hmem => h.absent hmem.1
  | close hquiet hstatus hsnapshot hwatched hsubscribers hnext =>
    refine ⟨⟨?_, hused⟩, shown_of_quiet hquiet id⟩
    rw [audience, hsubscribers]
    exact List.not_mem_nil

/-- An observer that is there is shown what is published, as long as nothing ends its
subscription. -/
lemma Present.airing [DecidableEq S] (h : it.Present id) (hattentive : it.Attentive)
    (hairing : it.Airing told it') (hlasts : ¬it.Ends id it') :
    it'.Present id ∧ told.filterMap (shown? id) = told.filterMap emitted? := by
  have hused := Nat.lt_of_lt_of_le h.used hairing.nextSubscription_le
  cases hairing with
  | quiet hunheard =>
    refine ⟨⟨fun hstatus => ?_, hused⟩, ?_⟩
    · rw [audience, hunheard.subscribers]
      exact h.here (hunheard.status ▸ hstatus)
    · rw [shown_of_quiet hunheard.quiet, emitted_of_quiet hunheard.quiet]
  | publish hcues hbroadcast hstatus hwatched hsubscribers hnext =>
    have hmem : id ∈ it.audience := h.here hcues.status
    refine ⟨⟨fun _ => audience_of_seen hsubscribers ▸ hmem, hused⟩, ?_⟩
    rw [shown_of_broadcast hattentive.nodup hcues.isCue hbroadcast, if_pos hmem,
      emitted_of_broadcast hcues.isCue hbroadcast]
  | welcome hwelcoming =>
    refine ⟨⟨fun hstatus => ?_, hused⟩, ?_⟩
    · exact hwelcoming.mem_audience.mpr (.inl (h.here (hwelcoming.status ▸ hstatus)))
    · rw [hwelcoming.shown, if_neg (Nat.ne_of_gt h.used), hwelcoming.emitted]
  | part other =>
    -- it is another one that goes
    have hother : id ≠ other := by
      rintro rfl
      exact hlasts (.inl rfl)
    exact ⟨⟨fun hstatus => (mem_audience_unsubscribe other).mpr ⟨h.here hstatus, hother⟩, hused⟩,
      rfl⟩
  | close => exact absurd (.inr rfl) hlasts

/-- Whatever ends a subscription ends it for good, and nobody is told. -/
lemma Ends.gone (h : it.Ends id it') (hattentive : it.Attentive)
    (hused : id < it.nextSubscription) :
    it'.Gone id ∧ it'.journal.filterMap (shown? id) = it.journal.filterMap (shown? id) := by
  rcases h with rfl | rfl
  · refine ⟨⟨?_, hused⟩, rfl⟩
    rw [mem_audience_unsubscribe]
    exact fun hmem => hmem.2 rfl
  · obtain ⟨told, hjournal, hquiet⟩ := stop_quiet it
    have hshown : it.stop.1.journal.filterMap (shown? id) = it.journal.filterMap (shown? id) := by
      rw [hjournal, List.filterMap_append, shown_of_quiet hquiet, List.append_nil]
    by_cases hstopped : it.status = .stopped
    · have hnobody := hattentive.closed hstopped
      rw [stop_of_stopped hstopped]
      exact ⟨⟨by simp [audience, hnobody], hused⟩, rfl⟩
    · obtain ⟨hsubscribers, hnext, -⟩ := stop_dismisses hstopped
      exact ⟨⟨by simp [audience, hsubscribers], hnext ▸ hused⟩, hshown⟩

variable [DecidableEq S] [Label S] [DecidableEq K] [Kinded E K]

/-- A course on which nothing ends the subscription with a number. -/
abbrev Attending (id : Nat) : Interpreter S C E K O → Interpreter S C E K O → Prop :=
  Relation.ReflTransGen fun it it' => it.Move it' ∧ ¬it.Ends id it'

/-- A subscription lasts over a whole course, or there is a move that ends it first. -/
lemma Course.attending_or_ends (id : Nat) (h : it.Course it') :
    Attending id it it' ∨ ∃ last next, Attending id it last ∧ last.Move next ∧
      last.Ends id next ∧ next.Course it' := by
  induction h with
  | refl => exact .inl .refl
  | @tail here there hcourse hmove ih =>
    rcases ih with hlasting | ⟨last, next, hlasting, hlast, hends, hnext⟩
    · by_cases hends : here.Ends id there
      · exact .inr ⟨here, there, hlasting, hmove, hends, .refl⟩
      · exact .inl (hlasting.tail ⟨hmove, hends⟩)
    · exact .inr ⟨last, next, hlasting, hlast, hends, hnext.tail hmove⟩

lemma Attentive.course (h : it.Attentive) (hcourse : it.Course it') : it'.Attentive := by
  induction hcourse with
  | refl => exact h
  | tail hcourse hmove ih =>
    obtain ⟨told, hjournal, hairing⟩ := hmove.airing
    exact ih.airing hjournal hairing

/-- In every interpreter the audience is in order. -/
theorem Course.attentive {d : Definition S C E K O} {options : Options}
    {it₀ : Interpreter S C E K O} (hfresh : Fresh d options it₀) (hcourse : it₀.Course it) :
    it.Attentive :=
  hfresh.attentive.course hcourse

/-- While a subscription lasts, its observer is shown what is published. -/
lemma Present.attending (h : it.Present id) (hattentive : it.Attentive)
    (hlasting : Attending id it it') :
    it'.Attentive ∧ it'.Present id ∧ ∃ told, it'.journal = it.journal ++ told ∧
      told.filterMap (shown? id) = told.filterMap emitted? := by
  induction hlasting with
  | refl => exact ⟨hattentive, h, [], (List.append_nil _).symm, rfl⟩
  | tail _ hmove ih =>
    obtain ⟨hhere, hpresent, told, htold, hshown⟩ := ih
    obtain ⟨more, hmore, hairing⟩ := hmove.1.airing
    obtain ⟨hpresent', hshown'⟩ := hpresent.airing hhere hairing hmove.2
    refine ⟨hhere.airing hmore hairing, hpresent', told ++ more, ?_, ?_⟩
    · rw [hmore, htold, List.append_assoc]
    · rw [List.filterMap_append, List.filterMap_append, hshown, hshown']

/-- When it is over, its observer is shown nothing more. -/
lemma Gone.course (h : it.Gone id) (hattentive : it.Attentive) (hcourse : it.Course it') :
    it'.journal.filterMap (shown? id) = it.journal.filterMap (shown? id) := by
  have hgone : it'.Gone id ∧
      it'.journal.filterMap (shown? id) = it.journal.filterMap (shown? id) := by
    induction hcourse with
    | refl => exact ⟨h, rfl⟩
    | tail hcourse hmove ih =>
      obtain ⟨more, hmore, hairing⟩ := hmove.airing
      obtain ⟨hgone, hnothing⟩ := ih.1.airing (hattentive.course hcourse) hairing
      refine ⟨hgone, ?_⟩
      rw [hmore, List.filterMap_append, hnothing, List.append_nil, ih.2]
  exact hgone.2

/-- What the observer that comes at `it` is shown on a course from `it₁`, when it has come, to
`it'`: at once the current position, if the machine runs, and then everything that is published up
to `last`, which is now or the moment at which its subscription ends. -/
def Attended (it it₁ it' : Interpreter S C E K O) : Prop :=
  ∃ last told, Attending it.nextSubscription it₁ last ∧ last.journal = it.journal ++ told ∧
    it'.journal.filterMap (shown? it.nextSubscription) = it.welcomed ++ told.filterMap emitted? ∧
    (it' = last ∨ ∃ next, last.Move next ∧ last.Ends it.nextSubscription next ∧ next.Course it')

/-- An observer is shown exactly what it came for, whoever else comes and goes. -/
theorem Attentive.attended {it₁ : Interpreter S C E K O} (h : it.Attentive)
    {react : Observer S C E O}
    (hcome : it₁ = (it.subscribe react).1 ∨ it.Meanwhile (it.subscribe react).1 it₁)
    (hcourse : it₁.Course it') : it.Attended it₁ it' := by
  obtain ⟨first, hjournal, hwelcoming⟩ := subscribe_welcoming hcome
  have hattentive : it₁.Attentive := h.airing hjournal (.welcome hwelcoming)
  have hpresent : it₁.Present it.nextSubscription := by
    refine ⟨fun hstatus => ?_, hwelcoming.nextSubscription ▸ Nat.lt_succ_self _⟩
    exact hwelcoming.mem_audience.mpr (.inr ⟨hwelcoming.status ▸ hstatus, rfl⟩)
  -- until the subscription ends, it is shown the first position and what is published
  have hshown {last : Interpreter S C E K O}
      (hlasting : Attending it.nextSubscription it₁ last) :
      ∃ told, last.journal = it.journal ++ told ∧
        last.journal.filterMap (shown? it.nextSubscription) =
          it.welcomed ++ told.filterMap emitted? := by
    obtain ⟨-, -, told, htold, hsame⟩ := hpresent.attending hattentive hlasting
    refine ⟨first ++ told, by rw [htold, hjournal, List.append_assoc], ?_⟩
    rw [htold, hjournal, List.filterMap_append, List.filterMap_append, List.filterMap_append,
      h.heard _ (Nat.le_refl _), hwelcoming.shown, if_pos rfl, hwelcoming.emitted, hsame]
    rfl
  rcases Course.attending_or_ends it.nextSubscription hcourse with
    hlasting | ⟨last, next, hlasting, hlast, hends, hnext⟩
  · obtain ⟨told, htold, htotal⟩ := hshown hlasting
    exact ⟨it', told, hlasting, htold, htotal, .inl rfl⟩
  · obtain ⟨told, htold, htotal⟩ := hshown hlasting
    obtain ⟨hhere, hpresent', -⟩ := hpresent.attending hattentive hlasting
    obtain ⟨hgone, hsame⟩ := hends.gone hhere hpresent'.used
    obtain ⟨more, hmore, hairing⟩ := hlast.airing
    have hover := hgone.course (hhere.airing hmore hairing) hnext
    exact ⟨last, told, hlasting, htold, hover.trans (hsame.trans htotal),
      .inr ⟨next, hlast, hends, hnext⟩⟩

end

end Interpreter

end Macrostep
