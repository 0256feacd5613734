/-
# Tokens

Whoever subscribes an observer is given a number, and whoever has the number can end the
subscription.  A record is kept of what is done with these tokens (`Interpreter.dealings`): at which
status each of them was issued and for whom, when it was handed in, and when the machine was
stopped.

The record alone says which tokens are good (`Dealing.Outstanding`): those that were issued before
the stop and have not been handed in since.  Handing in a good token sends its observer away and
nobody else, and the others keep their order; any other number has no effect at all
(`Interpreter.tokens_are_capabilities`).
-/
import Macrostep.Proofs.ObserverViews

namespace Macrostep

/-- Something that is done with the tokens of an interpreter. -/
inductive Dealing (S C E O : Type)
  /-- A token is issued for an observer, at a status of the machine. -/
  | issued (id : Nat) (status : Status) (react : Observer S C E O)
  /-- A number is handed in, whether it is a token or not. -/
  | returned (id : Nat)
  /-- The machine is stopped. -/
  | closed

namespace Dealing

variable {S C E O : Type} {record : List (Dealing S C E O)} {dealing : Dealing S C E O} {id : Nat}
  {react : Observer S C E O}

/-- The token that is issued. -/
def issued? : Dealing S C E O → Option Nat
  | issued id _ _ => some id
  | _ => none

/-- The token of an observer is good after these dealings: it was issued at a status other than
stopped, it has not been handed in since, and the machine has never been stopped. -/
def Outstanding (record : List (Dealing S C E O)) (id : Nat) (react : Observer S C E O) : Prop :=
  closed ∉ record ∧ ∃ past status later, record = past ++ issued id status react :: later ∧
    status ≠ .stopped ∧ returned id ∉ later

lemma not_outstanding_nil : ¬Outstanding [] id react := by
  rintro ⟨-, past, status, later, h, -⟩
  exact List.append_ne_nil_of_right_ne_nil past (List.cons_ne_nil _ later) h.symm

/-- What the last dealing makes of a token. -/
lemma outstanding_concat :
    Outstanding (record ++ [dealing]) id react ↔
      closed ∉ record ∧ dealing ≠ closed ∧ dealing ≠ returned id ∧
        (Outstanding record id react ∨
          ∃ status, status ≠ .stopped ∧ dealing = issued id status react) := by
  constructor
  · rintro ⟨hclosed, past, status, later, hsplit, hstatus, hreturned⟩
    have hopen : closed ∉ record := fun h => hclosed (List.mem_append_left _ h)
    have hlast : dealing ≠ closed := fun h => hclosed (by simp [h])
    rcases split_append hsplit with ⟨between, rfl, rfl⟩ | ⟨head, -, hend⟩
    · rw [List.mem_append, not_or] at hreturned
      exact ⟨hopen, hlast, fun h => hreturned.2 (by simp [h]),
        .inl ⟨hopen, past, status, between, rfl, hstatus, hreturned.1⟩⟩
    · have hmem : issued id status react ∈ [dealing] := by
        rw [hend]
        exact List.mem_append_right head List.mem_cons_self
      obtain rfl := List.mem_singleton.mp hmem
      exact ⟨hopen, hlast, nofun, .inr ⟨status, hstatus, rfl⟩⟩
  · rintro ⟨hopen, hlast, hreturned, ⟨-, past, status, later, rfl, hstatus, hlater⟩ |
      ⟨status, hstatus, rfl⟩⟩
    · refine ⟨?_, past, status, later ++ [dealing], List.append_assoc .., hstatus, ?_⟩
      · rw [List.mem_append, not_or, List.mem_singleton]
        exact ⟨hopen, hlast.symm⟩
      · rw [List.mem_append, not_or, List.mem_singleton]
        exact ⟨hlater, hreturned.symm⟩
    · exact ⟨by simp [hopen], record, status, [], rfl, hstatus, List.not_mem_nil⟩

end Dealing

namespace Interpreter

open Dealing

variable {S C E K O : Type} {it it' it'' : Interpreter S C E K O}

/-! ## Those who hold tokens -/

/-- The observers with their tokens, in the order of their subscription. -/
def holders (it : Interpreter S C E K O) : List (Nat × Observer S C E O) :=
  it.subscribers.map fun s => (s.id, s.react)

/-- Whoever subscribes comes last, unless the machine is stopped. -/
lemma holders_subscribe {react : Observer S C E O} {told : List (Occurrence S C E O)}
    (h : it.Welcoming react told it') :
    it'.holders =
      it.holders ++ if it.status = .stopped then [] else [(it.nextSubscription, react)] := by
  rw [holders, holders]
  cases h with
  | enroll hstatus _ hsubscribers _ => simp [hsubscribers, hstatus]
  | join hstatus _ _ hsubscribers _ => simp [hsubscribers, hstatus]
  | refuse hstatus _ hsubscribers _ => simp [hsubscribers, hstatus]

lemma holders_unsubscribe (it : Interpreter S C E K O) (id : Nat) :
    (it.unsubscribe id).1.holders = it.holders.filter fun holder => holder.1 ≠ id := by
  rw [holders, holders, List.filter_map]
  rfl

/-- From `it` to `it'` nobody comes or goes. -/
structure Retains (it it' : Interpreter S C E K O) : Prop where
  holders : it'.holders = it.holders
  nextSubscription : it'.nextSubscription = it.nextSubscription
  stopped : it'.status = .stopped ↔ it.status = .stopped

namespace Retains

lemma refl (it : Interpreter S C E K O) : it.Retains it := ⟨rfl, rfl, Iff.rfl⟩

lemma trans (h : it.Retains it') (h' : it'.Retains it'') : it.Retains it'' where
  holders := h'.holders.trans h.holders
  nextSubscription := h'.nextSubscription.trans h.nextSubscription
  stopped := h'.stopped.trans h.stopped

lemma of_unheard (h : ∃ told, it.Unheard told it') : it.Retains it' := by
  obtain ⟨told, hunheard⟩ := h
  refine ⟨?_, hunheard.nextSubscription, by rw [hunheard.status]⟩
  rw [Interpreter.holders, hunheard.subscribers]
  rfl

lemma log (it : Interpreter S C E K O) (o : Occurrence S C E O) : it.Retains (it.log o) :=
  ⟨rfl, rfl, Iff.rfl⟩

/-- Whoever is shown a snapshot keeps its token. -/
lemma emit (it : Interpreter S C E K O) : it.Retains it.emit := by
  obtain ⟨-, -, -, hshows, -, hsubscribers⟩ := emit_spec it
  refine ⟨?_, hshows.nextSubscription, by rw [hshows.status]⟩
  rw [Interpreter.holders, hsubscribers, List.map_map]
  rfl

section

variable [DecidableEq S] [Label S] [Kinded E K]

omit [Kinded E K] in
lemma settling {work : List (Occurrence S C E O)}
    {r : Interpreter S C E K O × Except InterpreterError Unit} (h : it.Settling work r) :
    it.Retains r.1 := by
  refine ⟨?_, h.kept.nextSubscription, by rw [h.kept.status]⟩
  rw [Interpreter.holders, h.kept.subscribers]
  rfl

lemma booted (h : it.status = .notStarted) : it.Retains it.booted := by
  have hbegun : it.Retains ({ it with status := .running }.log (.started it.state)) :=
    ⟨rfl, rfl, by simp [Interpreter.log, h]⟩
  obtain ⟨work, hsettle⟩ := booting_settling it
  exact (hbegun.trans (settling hsettle)).trans (emit it.booting.1)

variable [DecidableEq K]

lemma step (it : Interpreter S C E K O) (envelope : Envelope E) (inbox : Inbox E) :
    it.Retains (it.step envelope inbox).1 := by
  have hreceiving : it.Retains (it.receiving envelope inbox) := ⟨rfl, rfl, Iff.rfl⟩
  refine hreceiving.trans ?_
  change (it.receiving envelope inbox).Retains ((it.receiving envelope inbox).resolve envelope).1
  rcases resolve_settling (it.receiving envelope inbox) envelope with
    ⟨o, -, -, hresolve⟩ | ⟨work, r, hsettle, hresolve⟩
  · rw [hresolve]
    exact log _ o
  · rw [hresolve]
    exact (settling hsettle).trans (emit r.1)

lemma drain (it : Interpreter S C E K O) (budget : Nat) : it.Retains (it.drain budget).1 := by
  have hdraining := drain_spec it budget
  generalize it.drain budget = r at hdraining
  induction hdraining with
  | done _ => exact refl _
  | spent _ _ => exact refl _
  | next _ _ _ _ ih => exact (step _ _ _).trans ih
  | failed _ _ _ => exact step _ _ _

lemma start (it : Interpreter S C E K O) (budget : Nat) : it.Retains (it.start budget).1 := by
  cases hstatus : it.status with
  | running =>
    rw [start_of_running hstatus]
    exact refl it
  | stopped =>
    rw [start_of_stopped hstatus]
    exact log it _
  | notStarted =>
    have hbooted := booted hstatus
    cases hbooting : it.booting.2 with
    | ok u =>
      rw [start_of_ok hstatus hbooting]
      exact hbooted.trans (drain _ _)
    | error error =>
      rw [start_of_error hstatus hbooting]
      exact hbooted

lemma send (it : Interpreter S C E K O) (budget : Nat) (event : E) :
    it.Retains (it.send budget event).1 := by
  have henqueue (here : Interpreter S C E K O) : here.Retains (here.enqueue .external event) :=
    of_unheard (Unheard.enqueue here .external event)
  unfold Interpreter.send
  split
  · exact (henqueue it).trans (drain _ _)
  · split
    · exact (log it _).trans (henqueue _)
    · exact log it _
  · exact log it _

lemma processNext (it : Interpreter S C E K O) (budget : Nat) :
    it.Retains (it.processNext budget).1 := by
  rcases processNext_fst it budget with h | h
  · rw [h]
    exact refl it
  · rw [h]
    exact drain it budget

end

end Retains

/-! ## The record -/

/-- What a call does with tokens. -/
def dealing? (it : Interpreter S C E K O) : Call S C E O → Option (Dealing S C E O)
  | .subscribe react => some (.issued (it.subscribe react).2 it.status react)
  | .unsubscribe id => some (.returned id)
  | .stop => some .closed
  | _ => none

/-- A record is that of an interpreter: the tokens are numbers that were issued one after the
other, and the observers that are there are those whose tokens are good. -/
structure Registered (record : List (Dealing S C E O)) (it : Interpreter S C E K O) : Prop where
  issued : record.filterMap issued? = List.range it.nextSubscription
  closed : .closed ∈ record ↔ it.status = .stopped
  holders (id : Nat) (react : Observer S C E O) :
    (id, react) ∈ it.holders ↔ Outstanding record id react

namespace Registered

variable {record : List (Dealing S C E O)}

lemma fresh (hsubscribers : it.subscribers = []) (hnext : it.nextSubscription = 0)
    (hstatus : it.status ≠ .stopped) : Registered [] it where
  issued := by rw [hnext]; rfl
  closed := by simp [hstatus]
  holders id react := by
    rw [Interpreter.holders, hsubscribers]
    simp [not_outstanding_nil]

lemma retains (h : Registered record it) (hretains : it.Retains it') : Registered record it' where
  issued := hretains.nextSubscription ▸ h.issued
  closed := h.closed.trans hretains.stopped.symm
  holders id react := hretains.holders ▸ h.holders id react

/-- An observer comes, unless the machine is stopped, and a token is issued in any case. -/
lemma subscribe (h : Registered record it) (react : Observer S C E O) :
    Registered (record ++ [.issued (it.subscribe react).2 it.status react])
      (it.subscribe react).1 := by
  obtain ⟨told, -, hwelcoming⟩ : ∃ told, (it.subscribe react).1.journal = it.journal ++ told ∧
      it.Welcoming react told (it.subscribe react).1 := subscribe_welcoming (.inl rfl)
  rw [subscribe_snd]
  refine ⟨?_, ?_, fun id react' => ?_⟩
  · rw [List.filterMap_append, h.issued, hwelcoming.nextSubscription, List.range_succ]
    rfl
  · rw [hwelcoming.status, ← h.closed]
    simp
  · rw [holders_subscribe hwelcoming, outstanding_concat, List.mem_append, h.holders]
    by_cases hstopped : it.status = .stopped
    · -- no token is good
      have hclosed := h.closed.mpr hstopped
      rw [if_pos hstopped]
      constructor
      · rintro (⟨hopen, -⟩ | hmem)
        · exact absurd hclosed hopen
        · cases hmem
      · rintro ⟨hopen, -⟩
        exact absurd hclosed hopen
    · rw [if_neg hstopped, List.mem_singleton]
      constructor
      · rintro (hgood | hnew)
        · exact ⟨hgood.1, nofun, nofun, .inl hgood⟩
        · cases hnew
          exact ⟨fun hclosed => hstopped (h.closed.mp hclosed), nofun, nofun,
            .inr ⟨it.status, hstopped, rfl⟩⟩
      · rintro ⟨-, -, -, hgood | ⟨status, -, hnew⟩⟩
        · exact .inl hgood
        · cases hnew
          exact .inr rfl

/-- Who hands in its token goes. -/
lemma unsubscribe (h : Registered record it) (id : Nat) :
    Registered (record ++ [.returned id]) (it.unsubscribe id).1 where
  issued := by
    rw [List.filterMap_append, h.issued]
    exact List.append_nil _
  closed := by
    rw [List.mem_append, h.closed]
    simp [Interpreter.unsubscribe]
  holders id' react := by
    rw [holders_unsubscribe, List.mem_filter, h.holders, outstanding_concat, decide_eq_true_eq]
    have hlast : Dealing.returned id ≠ (.closed : Dealing S C E O) := by
      intro heq
      cases heq
    constructor
    · rintro ⟨hgood, hne⟩
      exact ⟨hgood.1, hlast, fun heq => hne (Dealing.returned.inj heq).symm, .inl hgood⟩
    · rintro ⟨-, -, hne, hgood | ⟨status, -, heq⟩⟩
      · exact ⟨hgood, fun heq => hne (congrArg returned heq.symm)⟩
      · cases heq

/-- After the stop nobody is there. -/
lemma stop (h : Registered record it) : Registered (record ++ [.closed]) it.stop.1 := by
  obtain ⟨hholders, hnext, hstatus⟩ : it.stop.1.holders = [] ∧
      it.stop.1.nextSubscription = it.nextSubscription ∧ it.stop.1.status = .stopped := by
    by_cases hstopped : it.status = .stopped
    · rw [stop_of_stopped hstopped]
      refine ⟨List.eq_nil_iff_forall_not_mem.mpr ?_, rfl, hstopped⟩
      rintro ⟨id, react⟩ hmem
      exact ((h.holders id react).mp hmem).1 (h.closed.mpr hstopped)
    · obtain ⟨hsubscribers, hnext, -⟩ := stop_dismisses hstopped
      obtain ⟨told, hhalt⟩ := stop_spec hstopped
      exact ⟨congrArg (List.map _) hsubscribers, hnext, hhalt.status⟩
  refine ⟨?_, by simp [hstatus], fun id react => ?_⟩
  · rw [List.filterMap_append, h.issued, hnext]
    exact List.append_nil _
  · rw [hholders, outstanding_concat]
    simp

end Registered

variable [DecidableEq S] [Label S] [DecidableEq K] [Kinded E K]

namespace Registered

variable {record : List (Dealing S C E O)}

/-- The record is carried on by every call. -/
lemma after (h : Registered record it) (call : Call S C E O) :
    Registered (record ++ (it.dealing? call).toList) (it.after call) := by
  have hidle (hretains : it.Retains (it.after call)) (hnone : it.dealing? call = none) :
      Registered (record ++ (it.dealing? call).toList) (it.after call) := by
    rw [hnone, Option.toList_none, List.append_nil]
    exact h.retains hretains
  cases call with
  | start budget => exact hidle (.start it budget) rfl
  | send budget event => exact hidle (.send it budget event) rfl
  | processNext budget => exact hidle (.processNext it budget) rfl
  | stop => exact h.stop
  | post origin event => exact hidle (.of_unheard (Unheard.enqueue it origin event)) rfl
  | subscribe react => exact h.subscribe react
  | unsubscribe id => exact h.unsubscribe id
  | takeWarnings => exact hidle ⟨rfl, rfl, Iff.rfl⟩ rfl
  | advance time most => exact hidle (.of_unheard (Unheard.advanceTo it time most)) rfl

end Registered

/-- What is done with tokens over a list of calls. -/
def dealings (it : Interpreter S C E K O) : List (Call S C E O) → List (Dealing S C E O)
  | [] => []
  | call :: calls => (it.dealing? call).toList ++ (it.after call).dealings calls

/-- So it is by every list of calls. -/
lemma Registered.dealings {record : List (Dealing S C E O)} (h : Registered record it)
    (calls : List (Call S C E O)) :
    Registered (record ++ it.dealings calls) (calls.foldl Interpreter.after it) := by
  induction calls generalizing it record with
  | nil => rwa [Interpreter.dealings, List.append_nil]
  | cons call calls ih =>
    rw [Interpreter.dealings, ← List.append_assoc]
    exact ih (h.after call)

/-! ## Handing in a number -/

omit [DecidableEq S] [Label S] [DecidableEq K] [Kinded E K] in
/-- A number that nobody has does nothing. -/
lemma unsubscribe_of_not_mem {id : Nat} (h : id ∉ it.audience) :
    it.unsubscribe id = (it, false) := by
  have hall : it.subscribers.filter (fun s => s.id ≠ id) = it.subscribers := by
    refine List.filter_eq_self.mpr fun s hs => decide_eq_true ?_
    rintro rfl
    exact h (List.mem_map_of_mem hs)
  simp only [unsubscribe, hall, ne_eq, not_true_eq_false, decide_false]

omit [DecidableEq S] [Label S] [DecidableEq K] [Kinded E K] in
/-- The observer that has the number goes, and nobody else. -/
lemma unsubscribe_of_split (hnodup : it.audience.Nodup) {before after : List (Subscriber S C E O)}
    {s : Subscriber S C E O} (h : it.subscribers = before ++ s :: after) :
    it.unsubscribe s.id = ({ it with subscribers := before ++ after }, true) := by
  have hother : ∀ o ∈ before ++ after, o.id ≠ s.id := by
    have hperm : it.audience.Perm (s.id :: (before ++ after).map Subscriber.id) := by
      rw [audience, h]
      exact List.perm_middle.map Subscriber.id
    intro o ho heq
    exact (List.nodup_cons.mp (hperm.nodup_iff.mp hnodup)).1 (heq ▸ List.mem_map_of_mem ho)
  have hrest : it.subscribers.filter (fun o => o.id ≠ s.id) = before ++ after := by
    rw [h, List.filter_append, List.filter_cons_of_neg (by simp), ← List.filter_append]
    exact List.filter_eq_self.mpr fun o ho => decide_eq_true (hother o ho)
  have hlength : (before ++ after).length ≠ it.subscribers.length := by
    rw [h, List.length_append, List.length_append, List.length_cons]
    omega
  rw [unsubscribe, hrest, decide_eq_true hlength]

omit [DecidableEq S] [Label S] [DecidableEq K] [Kinded E K] in
/-- The answer is yes exactly to a number that somebody has. -/
lemma unsubscribe_snd (hnodup : it.audience.Nodup) (id : Nat) :
    (it.unsubscribe id).2 = true ↔ id ∈ it.audience := by
  constructor
  · intro hyes
    by_cases hmem : id ∈ it.audience
    · exact hmem
    · rw [unsubscribe_of_not_mem hmem] at hyes
      cases hyes
  · intro hmem
    obtain ⟨s, hs, rfl⟩ := List.mem_map.mp hmem
    obtain ⟨before, after, hsplit⟩ := List.append_of_mem hs
    rw [unsubscribe_of_split hnodup hsplit]

omit [DecidableEq S] [Label S] [DecidableEq K] [Kinded E K] in
/-- Those who are there have good tokens. -/
lemma Registered.mem_audience {record : List (Dealing S C E O)} (h : Registered record it)
    (id : Nat) : id ∈ it.audience ↔ ∃ react, Outstanding record id react := by
  have haudience : it.audience = it.holders.map Prod.fst := by
    rw [audience, Interpreter.holders, List.map_map]
    rfl
  rw [haudience, List.mem_map, Prod.exists]
  simp only [h.holders, exists_and_right, exists_eq_right]

variable {d : Definition S C E K O} {options : Options} {it₀ : Interpreter S C E K O}

/-- **Tokens are capabilities.**  Whatever is done with an interpreter: no token is issued twice,
and what becomes of a number that is handed in can be read off the record.  If it is a good token,
the answer is yes, its observer goes, and the others stay in their order; otherwise the answer is
no.  Nothing else is changed in either case. -/
theorem tokens_are_capabilities (hfresh : Fresh d options it₀) (calls : List (Call S C E O)) :
    let it := calls.foldl Interpreter.after it₀
    let record := it₀.dealings calls
    (record.filterMap issued?).Nodup ∧ ∀ id,
      ((it.unsubscribe id).2 = true ↔ ∃ react, Outstanding record id react) ∧
      (∀ react, Outstanding record id react → ∃ before seen after,
        it.subscribers = before ++ ⟨id, react, seen⟩ :: after ∧
          it.unsubscribe id = ({ it with subscribers := before ++ after }, true)) ∧
      ((it.unsubscribe id).2 = false → (it.unsubscribe id).1 = it) := by
  intro it record
  have hregistered : Registered record it := by
    obtain ⟨now, timers, hplaced⟩ := hfresh.exists_placed
    have hnone : Registered [] it₀ := by
      rw [hplaced]
      exact .fresh rfl rfl nofun
    exact hnone.dealings calls
  have hnodup : it.audience.Nodup :=
    (Course.attentive hfresh (foldl_after_course it₀ calls)).nodup
  refine ⟨by rw [hregistered.issued]; exact List.nodup_range, fun id => ⟨?_, ?_, fun hno => ?_⟩⟩
  · rw [unsubscribe_snd hnodup, hregistered.mem_audience]
  · intro react hgood
    obtain ⟨⟨id, react, seen⟩, hmem, heq⟩ :=
      List.mem_map.mp ((hregistered.holders id react).mpr hgood)
    cases heq
    obtain ⟨before, after, hsplit⟩ := List.append_of_mem hmem
    exact ⟨before, seen, after, hsplit, unsubscribe_of_split hnodup hsplit⟩
  · rw [← Bool.not_eq_true, unsubscribe_snd hnodup] at hno
    rw [unsubscribe_of_not_mem hno]

open Lamp in
/-- Two observers come to the lamp, one before the start and one after it, and the first one goes:
the token of the second one is good, and that of the first one is no more. -/
theorem tokens_are_capabilities_lamp :
    let calls : List (Call State Nat Event Unit) :=
      [.subscribe fun _ _ => [], .start 1, .subscribe fun _ _ => [], .unsubscribe 0]
    let it := calls.foldl Interpreter.after (Interpreter.new lamp)
    (it.unsubscribe 1).2 = true ∧ (it.unsubscribe 0).1 = it := by
  intro calls it
  obtain ⟨-, hanswer⟩ := tokens_are_capabilities new_fresh calls
  have hgood : Outstanding ((Interpreter.new lamp).dealings calls) 1 fun _ _ => [] :=
    ⟨by simp [calls, Interpreter.dealings, dealing?], [.issued 0 .notStarted fun _ _ => []],
      .running, [.returned 0], rfl, nofun, by simp⟩
  exact ⟨(hanswer 1).1.mpr ⟨_, hgood⟩, (hanswer 0).2.2 rfl⟩

end Interpreter

end Macrostep
