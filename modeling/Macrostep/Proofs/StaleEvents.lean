/-
# Events of effects that are over

Once the effect with a number is not active any more, or did not start, it never will be active
again (`Interpreter.Spent`): every attempt bears a number of its own.  The events that it has sent
are discarded when their turn comes, wherever they stand in the inbox.  So two runs whose inboxes
differ in such events alone stay alike: they pass through the same positions and publish and send
the same (`Interpreter.Padded.drain`).  The journal of every course tells the same from the other
side: an event of an effect is resolved only while that effect is active (`Interpreter.Discreet`).
-/
import Macrostep.Proofs.ActiveEffect
import Macrostep.Proofs.InboxIndependence
import Macrostep.Proofs.InboxLedger

namespace Macrostep

open Occurrence

/-- A journal `l'` that tells the same as `l`, and in between that the envelopes `extra` of effects
were discarded. -/
inductive Sprinkled {S C E O : Type} :
    List (Occurrence S C E O) → List (Envelope E) → List (Occurrence S C E O) → Prop
  | nil : Sprinkled [] [] []
  | keep {l l' : List (Occurrence S C E O)} {extra : List (Envelope E)} (o : Occurrence S C E O)
      (h : Sprinkled l extra l') : Sprinkled (o :: l) extra (o :: l')
  | discard {l l' : List (Occurrence S C E O)} {extra : List (Envelope E)} {envelope : Envelope E}
      {generation : Nat} (horigin : envelope.origin = .effect generation)
      (h : Sprinkled l extra l') :
      Sprinkled l (envelope :: extra) (.taken envelope :: .stale envelope.event generation :: l')

namespace Sprinkled

variable {S C E O : Type} {l l' : List (Occurrence S C E O)} {extra : List (Envelope E)}

/-- Both journals begin with the same. -/
lemma after (h : Sprinkled l extra l') (told : List (Occurrence S C E O)) :
    Sprinkled (told ++ l) extra (told ++ l') := by
  induction told with
  | nil => exact h
  | cons o told ih => exact .keep o ih

/-- A reading that passes over discarded events reads the same in both. -/
lemma filterMap_eq {A : Type} {f : Occurrence S C E O → Option A} (h : Sprinkled l extra l')
    (htaken : ∀ envelope, f (.taken envelope) = none)
    (hstale : ∀ event generation, f (.stale event generation) = none) :
    l'.filterMap f = l.filterMap f := by
  induction h with
  | nil => rfl
  | keep o h ih => rw [List.filterMap_cons, List.filterMap_cons, ih]
  | discard horigin h ih =>
    rw [List.filterMap_cons_none (htaken _), List.filterMap_cons_none (hstale _ _), ih]

/-- Both tell of the same publications, and the same was sent. -/
lemma emitted_and_accepted (h : Sprinkled l extra l') :
    l'.filterMap emitted? = l.filterMap emitted? ∧
      l'.filterMap accepted? = l.filterMap accepted? :=
  ⟨h.filterMap_eq (fun _ => rfl) fun _ _ => rfl, h.filterMap_eq (fun _ => rfl) fun _ _ => rfl⟩

end Sprinkled

namespace Interpreter

variable {S C E K O : Type} {it it' : Interpreter S C E K O} {g : Nat}
  {told : List (Occurrence S C E O)}

/-! ## What is over stays over -/

/-- A start under the number `g` may have been attempted, but its effect is not active. -/
def Spent (it : Interpreter S C E K O) (g : Nat) : Prop :=
  g ≤ it.generation ∧ it.effect.map ActiveEffect.generation ≠ some g

namespace Spent

lemma congr (h : it.Spent g) (hgeneration : it'.generation = it.generation)
    (heffect : it'.effect.map ActiveEffect.generation = it.effect.map ActiveEffect.generation) :
    it'.Spent g :=
  ⟨hgeneration ▸ h.1, heffect ▸ h.2⟩

/-- Events of the effect are discarded. -/
lemma staleGeneration? {envelope : Envelope E} (h : it.Spent g)
    (horigin : envelope.origin = .effect g) : it.staleGeneration? envelope = some g := by
  rw [Interpreter.staleGeneration?, horigin]
  exact if_neg h.2

lemma releasing {failure : Option EffectError} (h : it.Spent g)
    (hrelease : Releasing it told it' failure) : it'.Spent g := by
  cases hrelease with
  | idle hno => exact h
  | clean hactive hreports => exact ⟨h.1, nofun⟩

lemma leaving (h : it.Spent g) (hleave : Leaving it told it') : it'.Spent g := by
  cases hleave with
  | smoothly hrelease => exact h.releasing hrelease
  | failing hrelease => exact (h.releasing hrelease).congr rfl rfl

lemma beside (h : it.Spent g) (hbeside : it.Beside told it') : it'.Spent g := by
  have hnumber (here : Interpreter S C E K O) :
      here.effect.map ActiveEffect.generation = here.running?.map Prod.fst := by
    rw [running?, Option.map_map]
    rfl
  refine h.congr hbeside.generation ?_
  rw [hnumber, hnumber, hbeside.running]

lemma meanwhile {it₁ : Interpreter S C E K O} (h : it₁.Spent g) (hamid : it.Meanwhile it₁ it') :
    it'.Spent g := by
  obtain ⟨queue, recorded, rfl⟩ := hamid.exists_amid
  exact h

lemma emit (h : it.Spent g) : it.emit.Spent g := by
  obtain ⟨-, -, -, hemit, -⟩ := emit_spec it
  exact h.congr hemit.generation (congrArg _ hemit.effect)

lemma stop (h : it.Spent g) : it.stop.1.Spent g := by
  by_cases hstopped : it.status = .stopped
  · rwa [stop_of_stopped hstopped]
  obtain ⟨told, hhalt⟩ := stop_spec hstopped
  refine ⟨hhalt.generation ▸ h.1, ?_⟩
  rw [hhalt.effect]
  nofun

section

variable [DecidableEq S]

/-- A start bears a number that was never used before. -/
lemma launching (h : it.Spent g) (hlaunch : Launching it told it') : it'.Spent g := by
  cases hlaunch with
  | quiet hno => exact h
  | success heffect hresult hreports =>
    have hle := h.1
    refine ⟨Nat.le_succ_of_le hle, fun heq => ?_⟩
    have hnumber : it.generation + 1 = g := Option.some.inj heq
    omega
  | failure heffect hresult hreports => exact ⟨Nat.le_succ_of_le h.1, h.2⟩

variable [Kinded E K]

lemma taking {t : Transition S C E O} {event : Option E} (h : it.Spent g)
    (htaking : Taking it t event told it') : it'.Spent g := by
  cases htaking with
  | inside htarget hreports => exact h
  | @across target inbox reports recorded left begun it₁ _ htarget hreports hleave hlaunch =>
    have hready : Spent { it with inbox, recorded } g := h
    have hleft : it₁.Spent g := hready.leaving hleave
    rw [enter_eq] at hlaunch
    refine launching ?_ hlaunch
    exact hleft.congr rfl rfl

lemma take (h : it.Spent g) (t : Transition S C E O) (event : Option E) :
    (it.take t event).Spent g := by
  obtain ⟨told, htaking, -⟩ := take_spec it t event
  exact h.taking htaking

variable [Label S] [DecidableEq K]

lemma step (h : it.Spent g) (envelope : Envelope E) (inbox : Inbox E) :
    (it.step envelope inbox).1.Spent g := by
  have hready : (it.receiving envelope inbox).Spent g := h
  exact resolve_induction (P := (Spent · g)) hready envelope (fun _ _ h => h) (fun _ _ h => h)
    (fun _ t event h => h.take t event) (fun _ _ h => h) (fun _ h => h.emit)

omit [DecidableEq K] in
lemma booted (h : it.Spent g) : it.booted.Spent g := by
  let begun : Interpreter S C E K O := { it with status := .running }.log (.started it.state)
  have hbegun : begun.Spent g := h
  obtain ⟨told, hlaunch, -⟩ := launch_spec begun
  have hbooting : it.booting.1.Spent g :=
    settleWithin_induction (P := (Spent · g)) (hbegun.launching hlaunch)
      (fun _ t h => h.take t none) (fun _ _ h => h) _
  exact hbooting.emit

lemma move (h : it.Spent g) (hmove : it.Move it') : it'.Spent g := by
  rcases hmove.beside_or with
    ⟨told, hbeside⟩ | ⟨hstatus, hamid⟩ | ⟨hrunning, envelope, inbox, hpop, hamid⟩ | rfl
  · exact h.beside hbeside
  · exact h.booted.meanwhile hamid
  · exact (h.step envelope inbox).meanwhile hamid
  · exact h.stop

/-- What is over stays over, whatever happens. -/
theorem course (h : it.Spent g) (hcourse : it.Course it') : it'.Spent g := by
  induction hcourse with
  | refl => exact h
  | tail hcourse hmove ih => exact ih.move hmove

end

end Spent

/-! ## Runs that differ in such events -/

/-- `it'` is `it` with the envelopes `extra` inserted among those that wait, which come from effects
that are over, and with a journal of its own. -/
structure Padded (it : Interpreter S C E K O) (extra : List (Envelope E))
    (it' : Interpreter S C E K O) : Prop where
  same : it' = it.amid it'.inbox.queue it'.recorded
  waiting : Interleaved it.inbox.waiting extra it'.inbox.waiting
  spent : ∀ envelope ∈ extra, ∃ g, envelope.origin = .effect g ∧ it.Spent g

variable [DecidableEq S] [Label S] [DecidableEq K] [Kinded E K]

/-- An event is resolved over what waits behind it. -/
lemma step_eq_amid {envelope : Envelope E} {inbox : Inbox E}
    (hpop : it.inbox.pop? = some (envelope, inbox)) :
    it.step envelope inbox =
      (it.amid inbox.queue (.taken envelope :: it.recorded)).resolve envelope := by
  have hinbox : { it.inbox with queue := inbox.queue } = inbox := by
    simp only [← (Inbox.waiting_of_pop? hpop).2]
  rw [step, amid, hinbox]
  rfl

/-- The resolution of one event at two interpreters that differ in what waits and in their journals:
the same is done, written down and queued. -/
lemma step_of_amid {envelope : Envelope E} {inbox inbox' : Inbox E}
    (hsame : it' = it.amid it'.inbox.queue it'.recorded)
    (hpop : it.inbox.pop? = some (envelope, inbox))
    (hpop' : it'.inbox.pop? = some (envelope, inbox')) :
    ∃ (sent : List (Envelope E)) (told : List (Occurrence S C E O)),
      (it'.step envelope inbox').2 = (it.step envelope inbox).2 ∧
      (it'.step envelope inbox').1 = (it.step envelope inbox).1.amid
        (it'.step envelope inbox').1.inbox.queue (it'.step envelope inbox').1.recorded ∧
      (it.step envelope inbox).1.inbox.waiting = inbox.waiting ++ sent ∧
      (it'.step envelope inbox').1.inbox.waiting = inbox'.waiting ++ sent ∧
      (it.step envelope inbox).1.journal = it.journal ++ told ∧
      (it'.step envelope inbox').1.journal = it'.journal ++ told := by
  obtain ⟨⟨sent, told, hfirst⟩, hsecond⟩ := resolve_impartial it envelope
  have hamid : it'.amid inbox'.queue (.taken envelope :: it'.recorded) =
      it.amid inbox'.queue (.taken envelope :: it'.recorded) := by
    conv => lhs; rw [hsame]
    rfl
  have hstep := step_eq_amid hpop
  have hstep' := step_eq_amid hpop'
  rw [hamid] at hstep'
  simp only at hfirst
  refine ⟨sent, .taken envelope :: told.reverse, ?_, ?_, ?_, ?_, ?_, ?_⟩
  · rw [hstep, hstep', hsecond, hsecond]
  · rw [hstep, hstep', hfirst, hfirst]
    rfl
  · rw [hstep, hfirst]
    exact Queue.toList_pushAll _ _
  · rw [hstep', hfirst]
    exact Queue.toList_pushAll _ _
  · rw [hstep, hfirst]
    simp [journal, amid]
  · rw [hstep', hfirst]
    simp [journal, amid]

namespace Padded

variable {extra : List (Envelope E)} {envelope : Envelope E} {inbox' : Inbox E}

/-- The next event of the padded interpreter is one of the inserted ones, and it is discarded, or it
is the next event of the other one as well, and they do the same. -/
theorem turn (h : it.Padded extra it') (hpop' : it'.inbox.pop? = some (envelope, inbox')) :
    (∃ rest g, extra = envelope :: rest ∧ envelope.origin = .effect g ∧
      (it'.step envelope inbox').2 = .ok () ∧
      it.Padded rest (it'.step envelope inbox').1 ∧
      (it'.step envelope inbox').1.journal =
        it'.journal ++ [.taken envelope, .stale envelope.event g]) ∨
    ∃ inbox told, it.inbox.pop? = some (envelope, inbox) ∧
      (it'.step envelope inbox').2 = (it.step envelope inbox).2 ∧
      (it.step envelope inbox).1.Padded extra (it'.step envelope inbox').1 ∧
      (it.step envelope inbox).1.journal = it.journal ++ told ∧
      (it'.step envelope inbox').1.journal = it'.journal ++ told := by
  have hwaiting := h.waiting
  rw [(Inbox.waiting_of_pop? hpop').1] at hwaiting
  rcases hwaiting.cons_cases with ⟨rest, rfl, hrest⟩ | ⟨behind, hbehind, hrest⟩
  · left
    -- an inserted event comes first, and the active effect is not the one that sent it
    obtain ⟨g, horigin, hspent⟩ := h.spent envelope List.mem_cons_self
    have hspent' : (it'.amid inbox'.queue (.taken envelope :: it'.recorded)).Spent g := by
      rw [h.same]
      exact hspent
    have hstep : it'.step envelope inbox' =
        ((it'.amid inbox'.queue (.taken envelope :: it'.recorded)).log (.stale envelope.event g),
          .ok ()) := by
      rw [step_eq_amid hpop', resolve, hspent'.staleGeneration? horigin]
    rw [hstep]
    refine ⟨rest, g, rfl, horigin, rfl, ⟨?_, hrest, ?_⟩, ?_⟩
    · rw [h.same]
      rfl
    · intro other hother
      exact h.spent other (List.mem_cons_of_mem _ hother)
    · simp [journal, amid, log]
  · right
    -- both take the same event; what it queues comes behind the rest in both
    obtain ⟨inbox, hpop, rfl⟩ := pop?_of_waiting hbehind
    obtain ⟨sent, told, hresult, hsame, hfirst, hsecond, hjournal, hjournal'⟩ :=
      step_of_amid h.same hpop hpop'
    refine ⟨inbox, told, hpop, hresult, ⟨hsame, ?_, ?_⟩, hjournal, hjournal'⟩
    · rw [hfirst, hsecond]
      exact hrest.append sent
    · intro other hother
      obtain ⟨g, horigin, hspent⟩ := h.spent other hother
      exact ⟨g, horigin, hspent.step envelope inbox⟩

end Padded

/-- Two runs that began at `it` and at `it'`, in whose inbox `extra` was inserted, and came to `r`
and to `r'`.  Of `extra` the envelopes `discarded` were taken and the envelopes `left` still wait. -/
structure Parallel (it : Interpreter S C E K O) (extra : List (Envelope E))
    (it' : Interpreter S C E K O) (r r' : Interpreter S C E K O × Except InterpreterError Unit)
    (discarded left : List (Envelope E)) (told told' : List (Occurrence S C E O)) : Prop where
  result : r'.2 = r.2
  parts : extra = discarded ++ left
  /-- Nothing is left of `extra` unless the runs fail. -/
  finished : r.2 = .ok () → left = []
  /-- What is left of `extra` and the journal is all in which the interpreters differ. -/
  padded : r.1.Padded left r'.1
  journal : r.1.journal = it.journal ++ told
  journal' : r'.1.journal = it'.journal ++ told'
  /-- The same was done in both, but for what was discarded. -/
  sprinkled : Sprinkled told discarded told'
  emitted : told'.filterMap emitted? = told.filterMap emitted?
  accepted : told'.filterMap accepted? = told.filterMap accepted?

/-- The runs from `it` and from `it'`, in whose inbox `extra` was inserted, come to the same. -/
def Alike (it : Interpreter S C E K O) (extra : List (Envelope E)) (it' : Interpreter S C E K O)
    (r r' : Interpreter S C E K O × Except InterpreterError Unit) : Prop :=
  ∃ discarded left told told', it.Parallel extra it' r r' discarded left told told'

namespace Alike

variable {extra rest : List (Envelope E)}
  {r r' : Interpreter S C E K O × Except InterpreterError Unit}
  {first first' : Interpreter S C E K O}

omit [DecidableEq S] [Label S] [DecidableEq K] [Kinded E K]

lemma result (h : it.Alike extra it' r r') : r'.2 = r.2 := by
  obtain ⟨discarded, left, told, told', hparallel⟩ := h
  exact hparallel.result

/-- Two runs that are at their end. -/
lemma halt {result : Except InterpreterError Unit} (h : it.Padded extra it')
    (hend : result = .ok () → extra = []) :
    it.Alike extra it' (it, result) (it', result) :=
  ⟨[], extra, [], [], rfl, rfl, hend, h, by simp, by simp, .nil, rfl, rfl⟩

/-- First both do the same. -/
lemma after (h : first.Alike extra first' r r') (hjournal : first.journal = it.journal ++ told)
    (hjournal' : first'.journal = it'.journal ++ told) : it.Alike extra it' r r' := by
  obtain ⟨discarded, left, next, next', hparallel⟩ := h
  have hwhole := hparallel.sprinkled.after told
  obtain ⟨hemitted, haccepted⟩ := hwhole.emitted_and_accepted
  refine ⟨discarded, left, told ++ next, told ++ next', hparallel.result, hparallel.parts,
    hparallel.finished, hparallel.padded, ?_, ?_, hwhole, hemitted, haccepted⟩
  · rw [hparallel.journal, hjournal, List.append_assoc]
  · rw [hparallel.journal', hjournal', List.append_assoc]

/-- First an event that was inserted is discarded. -/
lemma discard {envelope : Envelope E} (h : it.Alike rest first' r r')
    (horigin : envelope.origin = .effect g)
    (hjournal : first'.journal = it'.journal ++ [.taken envelope, .stale envelope.event g]) :
    it.Alike (envelope :: rest) it' r r' := by
  obtain ⟨discarded, left, next, next', hparallel⟩ := h
  have hwhole := Sprinkled.discard horigin hparallel.sprinkled
  obtain ⟨hemitted, haccepted⟩ := hwhole.emitted_and_accepted
  refine ⟨envelope :: discarded, left, next, _, hparallel.result, ?_, hparallel.finished,
    hparallel.padded, hparallel.journal, ?_, hwhole, hemitted, haccepted⟩
  · rw [hparallel.parts]
    rfl
  · rw [hparallel.journal', hjournal, List.append_assoc]
    rfl

end Alike

/-- More than enough is as good as enough. -/
lemma drain_succ_of_enough {budget : Nat} (h : (it.drain budget).2 ≠ .error .budgetSpent) :
    it.drain (budget + 1) = it.drain budget := by
  have hspec := drain_spec it budget
  generalize it.drain budget = r at hspec h ⊢
  induction hspec with
  | done hdone => exact drain_of_done hdone _
  | spent hstatus hwaiting => exact absurd rfl h
  | next hstatus hpop hok hrest ih => rw [drain_succ_of_ok hstatus hpop hok, ih h]
  | failed hstatus hpop herr => exact drain_succ_of_error hstatus hpop herr _

namespace Padded

variable {extra : List (Envelope E)}

omit [DecidableEq S] [Label S] [DecidableEq K] [Kinded E K] in
/-- If nothing waits, nothing was inserted. -/
lemma eq_nil (h : it.Padded extra it') (hpop' : it'.inbox.pop? = none) :
    it.inbox.pop? = none ∧ extra = [] := by
  have hwaiting := h.waiting
  rw [(Inbox.pop?_eq_none_iff_waiting _).mp hpop'] at hwaiting
  exact ⟨(Inbox.pop?_eq_none_iff_waiting _).mpr hwaiting.eq_nil.1, hwaiting.eq_nil.2⟩

omit [DecidableEq S] [Label S] [DecidableEq K] [Kinded E K] in
lemma status (h : it.Padded extra it') : it'.status = it.status := by
  rw [h.same]
  rfl

/-- Nothing waits in either. -/
lemma alike_of_empty (h : it.Padded extra it') (hpop' : it'.inbox.pop? = none)
    (budget budget' : Nat) : it.Alike extra it' (it.drain budget) (it'.drain budget') := by
  obtain ⟨hpop, rfl⟩ := h.eq_nil hpop'
  rw [drain_of_empty hpop, drain_of_empty hpop']
  exact .halt h fun _ => rfl

/-- Both take the same event first. -/
lemma alike_of_pop {envelope : Envelope E} {inbox inbox' : Inbox E} {budget budget' : Nat}
    (h : it.Padded extra it') (hrunning : it.status = .running)
    (hpop : it.inbox.pop? = some (envelope, inbox))
    (hpop' : it'.inbox.pop? = some (envelope, inbox'))
    (hresult : (it'.step envelope inbox').2 = (it.step envelope inbox).2)
    (hpadded : (it.step envelope inbox).1.Padded extra (it'.step envelope inbox').1)
    (hjournal : (it.step envelope inbox).1.journal = it.journal ++ told)
    (hjournal' : (it'.step envelope inbox').1.journal = it'.journal ++ told)
    (hrest : (it.step envelope inbox).2 = .ok () →
      (it.step envelope inbox).1.Alike extra (it'.step envelope inbox').1
        ((it.step envelope inbox).1.drain budget) ((it'.step envelope inbox').1.drain budget')) :
    it.Alike extra it' (it.drain (budget + 1)) (it'.drain (budget' + 1)) := by
  have hrunning' := h.status.trans hrunning
  cases hstep : (it.step envelope inbox).2 with
  | ok u =>
    rw [drain_succ_of_ok hrunning hpop hstep,
      drain_succ_of_ok hrunning' hpop' (hresult.trans hstep)]
    exact (hrest hstep).after hjournal hjournal'
  | error error =>
    rw [drain_succ_of_error hrunning hpop hstep,
      drain_succ_of_error hrunning' hpop' (hresult.trans hstep)]
    have hhalt : (it.step envelope inbox).1.Alike extra (it'.step envelope inbox').1
        ((it.step envelope inbox).1, .error error) ((it'.step envelope inbox').1, .error error) :=
      .halt hpadded nofun
    exact hhalt.after hjournal hjournal'

/-- If one run comes to its end, so does the one with more waiting, given that much more. -/
theorem drain (h : it.Padded extra it') (hrunning : it.status = .running) {budget : Nat}
    (hend : (it.drain budget).2 ≠ .error .budgetSpent) :
    it.Alike extra it' (it.drain budget) (it'.drain (budget + extra.length)) := by
  -- every event that the run with more waiting takes uses up one of the sum
  induction hfuel : budget + extra.length using Nat.strongRecOn
    generalizing it it' extra budget with
  | _ fuel ih =>
    subst hfuel
    cases hpop' : it'.inbox.pop? with
    | none => exact h.alike_of_empty hpop' _ _
    | some head =>
      obtain ⟨envelope, inbox'⟩ := head
      rcases h.turn hpop' with ⟨rest, g, rfl, horigin, hok, hpadded, hjournal⟩ |
        ⟨inbox, told, hpop, hresult, hpadded, hjournal, hjournal'⟩
      · have hrest := ih (budget + rest.length) (by simp) hpadded hrunning hend rfl
        rw [List.length_cons, ← Nat.add_assoc,
          drain_succ_of_ok (h.status.trans hrunning) hpop' hok]
        exact hrest.discard horigin hjournal
      · cases budget with
        | zero => exact absurd (by rw [drain_zero_of_pop hrunning hpop]) hend
        | succ budget =>
          rw [Nat.succ_add]
          refine h.alike_of_pop hrunning hpop hpop' hresult hpadded hjournal hjournal' fun hok => ?_
          rw [drain_succ_of_ok hrunning hpop hok] at hend
          exact ih _ (by omega) hpadded ((step_status it envelope inbox).trans hrunning) hend rfl

/-- If the run with more waiting comes to its end, so does the other one. -/
theorem drain_of_padded (h : it.Padded extra it') (hrunning : it.status = .running) {budget : Nat}
    (hend : (it'.drain budget).2 ≠ .error .budgetSpent) :
    it.Alike extra it' (it.drain budget) (it'.drain budget) := by
  induction budget generalizing it it' extra with
  | zero =>
    cases hpop' : it'.inbox.pop? with
    | none => exact h.alike_of_empty hpop' _ _
    | some head =>
      exact absurd (by rw [drain_zero_of_pop (h.status.trans hrunning) hpop']) hend
  | succ budget ih =>
    have hrunning' := h.status.trans hrunning
    cases hpop' : it'.inbox.pop? with
    | none => exact h.alike_of_empty hpop' _ _
    | some head =>
      obtain ⟨envelope, inbox'⟩ := head
      rcases h.turn hpop' with ⟨rest, g, rfl, horigin, hok, hpadded, hjournal⟩ |
        ⟨inbox, told, hpop, hresult, hpadded, hjournal, hjournal'⟩
      · -- the other run needs one less than it is given
        rw [drain_succ_of_ok hrunning' hpop' hok] at hend ⊢
        have hrest := ih hpadded hrunning hend
        rw [drain_succ_of_enough (hrest.result ▸ hend)]
        exact hrest.discard horigin hjournal
      · refine h.alike_of_pop hrunning hpop hpop' hresult hpadded hjournal hjournal' fun hok => ?_
        rw [drain_succ_of_ok hrunning' hpop' (hresult.trans hok)] at hend
        exact ih hpadded ((step_status it envelope inbox).trans hrunning) hend

end Padded

/-! ## What the journal tells -/

/-- In the journal an event of an effect that was not started, or was cleaned up before the event
was taken, is discarded at once. -/
def Discreet (l : List (Occurrence S C E O)) : Prop :=
  ∀ past event g rest, l = past ++ .taken ⟨event, .effect g⟩ :: rest →
    g ∉ past.filterMap success? ∨ g ∈ past.filterMap cleanup? →
    ∃ rest', rest = .stale event g :: rest'

section

omit [DecidableEq S] [Label S] [DecidableEq K] [Kinded E K]

variable {l : List (Occurrence S C E O)}

lemma taken_notMem (hno : told.filterMap taken? = []) (envelope : Envelope E) :
    .taken envelope ∉ told := by
  intro hmem
  cases List.filterMap_eq_nil_iff.mp hno _ hmem

lemma Discreet.append (h : Discreet l) (hno : told.filterMap taken? = []) :
    Discreet (l ++ told) := by
  intro past event g rest hl hover
  rcases split_append hl with ⟨tail, hpast, rfl⟩ | ⟨head, -, htold⟩
  · obtain ⟨rest', rfl⟩ := h past event g tail hpast hover
    exact ⟨rest' ++ told, rfl⟩
  · exact absurd (by simp [htold]) (taken_notMem hno ⟨event, .effect g⟩)

/-- An event is taken, and what follows is right for it. -/
lemma Discreet.take {envelope : Envelope E} (h : Discreet l) (hno : told.filterMap taken? = [])
    (hright : ∀ g, envelope.origin = .effect g →
      g ∉ l.filterMap success? ∨ g ∈ l.filterMap cleanup? →
      ∃ rest, told = .stale envelope.event g :: rest) :
    Discreet (l ++ .taken envelope :: told) := by
  intro past event g rest hl hover
  rcases split_append hl with ⟨tail, hpast, rfl⟩ | ⟨head, rfl, htold⟩
  · obtain ⟨rest', rfl⟩ := h past event g tail hpast hover
    exact ⟨_, rfl⟩
  · cases head with
    | nil =>
      obtain ⟨hfirst, rfl⟩ := List.cons.inj htold
      obtain rfl := Occurrence.taken.inj hfirst
      rw [List.append_nil] at hover
      exact hright g rfl hover
    | cons o head =>
      obtain ⟨-, rfl⟩ := List.cons.inj htold
      exact absurd (by simp) (taken_notMem hno ⟨event, .effect g⟩)

end

omit [Label S] [DecidableEq K] [Kinded E K] in
/-- The active effect is one that was started and not cleaned up. -/
lemma Household.of_active (h : it.Household)
    (hactive : it.effect.map ActiveEffect.generation = some g) :
    g ∈ it.journal.filterMap success? ∧ g ∉ it.journal.filterMap cleanup? := by
  have hcleanups := h.cleanups
  obtain ⟨tenancy, hlived, -⟩ := h
  have hnodup := hlived.nodup_successes
  obtain ⟨active, heffect, rfl⟩ := Option.map_eq_some_iff.mp hactive
  have hruns : it.effect.toList.map ActiveEffect.generation = [active.generation] := by
    rw [heffect]
    rfl
  rw [← hcleanups, hruns] at hnodup ⊢
  refine ⟨by simp, fun hmem => ?_⟩
  exact (List.nodup_append.mp hnodup).2.2 _ hmem _ (List.mem_singleton_self _) rfl

/-- An event that is taken is discarded, unless its effect is active. -/
lemma Discreet.step {envelope : Envelope E} {inbox : Inbox E} (h : Discreet it.journal)
    (hproper : it.Proper) (hhouse : it.Household)
    (hamid : (it.receiving envelope inbox).Meanwhile (it.step envelope inbox).1 it') :
    Discreet it'.journal := by
  have hready : (it.receiving envelope inbox).Proper := hproper
  obtain ⟨told, hresolving, hadds⟩ := resolve_spec hready envelope
  obtain ⟨first, rest, sent, rest', hfirst, -, -, hadds'⟩ := hamid.adds hadds
  rw [journal_of_receiving hadds']
  refine h.take hadds'.taken fun g horigin hover => ?_
  -- a number that was not started or was cleaned up is not that of the active effect
  have hstale : (it.receiving envelope inbox).staleGeneration? envelope = some g := by
    rw [Interpreter.staleGeneration?, horigin]
    refine if_neg fun hactive => ?_
    obtain ⟨hstarted, hcleaned⟩ := hhouse.of_active hactive
    exact hover.elim (fun hno => hno hstarted) hcleaned
  generalize (it.receiving envelope inbox).resolve envelope = r at hresolving
  cases hresolving with
  | stale hstale' =>
    obtain rfl := Option.some.inj (hstale'.symm.trans hstale)
    obtain ⟨rfl, -⟩ := List.cons.inj hfirst
    exact ⟨rest', rfl⟩
  | unhandled hfresh hnone =>
    rw [hstale] at hfresh
    cases hfresh
  | handled hfresh hlegs hsome hstretch hproper' hshown =>
    rw [hstale] at hfresh
    cases hfresh

variable {d : Definition S C E K O} {options : Options} {it₀ : Interpreter S C E K O}

/-- On every course the events of effects that are over are discarded. -/
theorem Course.discreet (hfresh : Fresh d options it₀) (hcourse : it₀.Course it) :
    Discreet it.journal := by
  induction hcourse with
  | refl =>
    intro past event g rest hl
    rw [journal, hfresh.blank.recorded] at hl
    exact absurd hl (by simp)
  | @tail it it' hcourse hmove ih =>
    have hproper := (Course.sound hfresh hcourse).1.proper
    rcases hmove.beside_or with
      ⟨told, hbeside⟩ | ⟨hstatus, hamid⟩ | ⟨hrunning, envelope, inbox, hpop, hamid⟩ | rfl
    · rw [hbeside.journal]
      exact ih.append hbeside.taken
    · obtain ⟨told, hadds⟩ := adds_of_booted_meanwhile hamid
      rw [hadds.journal]
      exact ih.append hadds.taken
    · exact ih.step hproper (Course.household hfresh hcourse) hamid
    · by_cases hstopped : it.status = .stopped
      · rwa [stop_of_stopped hstopped]
      obtain ⟨told, hhalt⟩ := stop_spec hstopped
      rw [hhalt.journal]
      exact ih.append hhalt.taken

/-- The interpreter with other events waiting. -/
def holding (it : Interpreter S C E K O) (queue : Queue (Envelope E)) : Interpreter S C E K O :=
  it.amid queue it.recorded

/-- Events of effects that are over do not interfere.  Wherever they are inserted among the events
that wait, emptying the inbox comes to the same; what is over stays over; and no journal tells that
an event was resolved whose effect was cleaned up or did not start. -/
theorem stale_events_do_not_interfere (hfresh : Fresh d options it₀) (hcourse : it₀.Course it) :
    (it.status = .running → ∀ (queue queue' : Queue (Envelope E)) (extra : List (Envelope E)),
      Interleaved queue.toList extra queue'.toList →
      (∀ envelope ∈ extra, ∃ g, envelope.origin = .effect g ∧ it.Spent g) → ∀ budget,
      (((it.holding queue).drain budget).2 ≠ .error .budgetSpent →
        Alike (it.holding queue) extra (it.holding queue') ((it.holding queue).drain budget)
          ((it.holding queue').drain (budget + extra.length))) ∧
      (((it.holding queue').drain budget).2 ≠ .error .budgetSpent →
        Alike (it.holding queue) extra (it.holding queue') ((it.holding queue).drain budget)
          ((it.holding queue').drain budget))) ∧
    (∀ g it', it.Spent g → it.Course it' → it'.Spent g) ∧
    Discreet it.journal ∧
    ∀ past error rest, it.journal = past ++ .launchFailed error :: rest →
      ∃ before state context g during, past = before ++ .launching state context g :: during ∧
        (∀ o ∈ during, o.isLife = false) ∧
        ∀ past event rest, it.journal = past ++ .taken ⟨event, .effect g⟩ :: rest →
          ∃ rest', rest = .stale event g :: rest' := by
  have hdiscreet := Course.discreet hfresh hcourse
  refine ⟨?_, fun g it' hspent hlater => hspent.course hlater, hdiscreet, ?_⟩
  · intro hrunning queue queue' extra hwaiting hspent budget
    have hpadded : (it.holding queue).Padded extra (it.holding queue') := ⟨rfl, hwaiting, hspent⟩
    exact ⟨hpadded.drain hrunning, hpadded.drain_of_padded hrunning⟩
  · intro past error rest hjournal
    obtain ⟨tenancy, hlived, -⟩ := Course.household hfresh hcourse
    obtain ⟨g, hpast, -, -, hnever⟩ := hlived.after_failure hjournal
    obtain ⟨before, state, context, during, rfl, hduring⟩ := hpast.of_starting rfl
    refine ⟨before, state, context, g, during, rfl, hduring, fun past event rest htaken => ?_⟩
    refine hdiscreet past event g rest htaken (.inl fun hstarted => hnever ?_)
    rw [htaken, List.filterMap_append]
    exact List.mem_append_left _ hstarted

open Lamp in
/-- The lamp that was pressed twice is off, and beats of the effect that it had do not matter, not
even when the next press has turned it on again. -/
theorem stale_events_do_not_interfere_lamp :
    let dark := (pressed.send 9 .press).1
    let plain := dark.holding ⟨[⟨.press, .external⟩], []⟩
    let padded := dark.holding ⟨[⟨.beat, .effect 1⟩, ⟨.press, .external⟩, ⟨.beat, .effect 1⟩], []⟩
    plain.Alike [⟨.beat, .effect 1⟩, ⟨.beat, .effect 1⟩] padded (plain.drain 9)
      (padded.drain 11) := by
  have hcourse : (Interpreter.new lamp).Course (pressed.send 9 .press).1 :=
    pressed_course.trans (Course.send pressed 9 .press)
  obtain ⟨hdrain, -⟩ := stale_events_do_not_interfere new_fresh hcourse
  refine (hdrain rfl _ _ [⟨.beat, .effect 1⟩, ⟨.beat, .effect 1⟩] ?_ ?_ 9).1 ?_
  · exact .insert _ (.keep _ (.insert _ .nil))
  · have hspent : (pressed.send 9 .press).1.Spent 1 := ⟨by decide, by decide⟩
    simpa using hspent
  · rw [show ((pressed.send 9 .press).1.holding ⟨[⟨.press, .external⟩], []⟩ |>.drain 9).2 = .ok ()
      from rfl]
    nofun

end Interpreter

end Macrostep
