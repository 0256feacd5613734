/-
# While others send

An interpreter is not alone.  Outlets of it are in other hands, and whoever has one may send at any
time, also in the middle of a move.  No move looks at what waits, so what others send meanwhile
comes to the queue and to the journal, somewhere among what the move itself sends and tells, and
changes nothing else.

`Interpreter.Meanwhile it it₁ it'` says that a move leads from `it` to `it₁` while nobody else sends
and may lead to `it'` while others do.
-/
import Macrostep.Proofs.InboxIndependence

namespace Macrostep

open Occurrence

/-- `l'` is `l` with the elements of `extra` inserted, in their order and at any places. -/
inductive Interleaved {A : Type} : List A → List A → List A → Prop
  | nil : Interleaved [] [] []
  | keep {l extra l' : List A} (a : A) (h : Interleaved l extra l') :
      Interleaved (a :: l) extra (a :: l')
  | insert {l extra l' : List A} (a : A) (h : Interleaved l extra l') :
      Interleaved l (a :: extra) (a :: l')

namespace Interleaved

variable {A : Type} {l extra l' : List A}

lemma refl (l : List A) : Interleaved l [] l := by
  induction l with
  | nil => exact .nil
  | cons a l ih => exact .keep a ih

/-- Both lists go on in the same way. -/
lemma append (h : Interleaved l extra l') (more : List A) :
    Interleaved (l ++ more) extra (l' ++ more) := by
  induction h with
  | nil => exact .refl more
  | keep a h ih => exact .keep a ih
  | insert a h ih => exact .insert a ih

/-- Both lists begin in the same way. -/
lemma after (h : Interleaved l extra l') (before : List A) :
    Interleaved (before ++ l) extra (before ++ l') := by
  induction before with
  | nil => exact h
  | cons a before ih => exact .keep a ih

/-- The first element was inserted, or it is the first one of both lists. -/
lemma cons_cases {a : A} (h : Interleaved l extra (a :: l')) :
    (∃ rest, extra = a :: rest ∧ Interleaved l rest l') ∨
      ∃ rest, l = a :: rest ∧ Interleaved rest extra l' := by
  cases h with
  | keep _ h => exact .inr ⟨_, rfl, h⟩
  | insert _ h => exact .inl ⟨_, rfl, h⟩

lemma eq_nil (h : Interleaved l extra []) : l = [] ∧ extra = [] := by
  cases h
  exact ⟨rfl, rfl⟩

/-- What is true of the elements of both is true of every element. -/
lemma forall_mem {p : A → Prop} (h : Interleaved l extra l') (hl : ∀ a ∈ l, p a)
    (hextra : ∀ a ∈ extra, p a) : ∀ a ∈ l', p a := by
  induction h with
  | nil => simp
  | keep a h ih =>
    rw [List.forall_mem_cons] at hl ⊢
    exact ⟨hl.1, ih hl.2 hextra⟩
  | insert a h ih =>
    rw [List.forall_mem_cons] at hextra ⊢
    exact ⟨hextra.1, ih hl hextra.2⟩

lemma subset (h : Interleaved l extra l') : ∀ a ∈ l, a ∈ l' := by
  induction h with
  | nil => simp
  | keep a h ih =>
    intro b hb
    rcases List.mem_cons.mp hb with rfl | hb
    · exact List.mem_cons_self
    · exact List.mem_cons_of_mem _ (ih b hb)
  | insert a h ih => exact fun b hb => List.mem_cons_of_mem _ (ih b hb)

/-- A reading that passes over what was inserted reads the same in both lists. -/
lemma filterMap_eq {B : Type} {f : A → Option B} (h : Interleaved l extra l')
    (hextra : ∀ a ∈ extra, f a = none) : l'.filterMap f = l.filterMap f := by
  induction h with
  | nil => rfl
  | keep a h ih => rw [List.filterMap_cons, List.filterMap_cons, ih hextra]
  | insert a h ih =>
    rw [List.forall_mem_cons] at hextra
    rw [List.filterMap_cons_none hextra.1, ih hextra.2]

/-- The same for a reading that may find several things in an element. -/
lemma flatMap_eq {B : Type} {f : A → List B} (h : Interleaved l extra l')
    (hextra : ∀ a ∈ extra, f a = []) : l'.flatMap f = l.flatMap f := by
  induction h with
  | nil => rfl
  | keep a h ih => rw [List.flatMap_cons, List.flatMap_cons, ih hextra]
  | insert a h ih =>
    rw [List.forall_mem_cons] at hextra
    rw [List.flatMap_cons, hextra.1, ih hextra.2, List.nil_append]

/-- Every element of the list divides what was inserted into what stands before and behind it. -/
lemma split {before behind : List A} {a : A} (h : Interleaved (before ++ a :: behind) extra l') :
    ∃ before' behind' first last, l' = before' ++ a :: behind' ∧ extra = first ++ last ∧
      Interleaved before first before' ∧ Interleaved behind last behind' := by
  generalize hl : before ++ a :: behind = l at h
  induction h generalizing before with
  | nil => simp at hl
  | keep b h ih =>
    cases before with
    | nil =>
      obtain ⟨rfl, rfl⟩ := List.cons.inj hl
      exact ⟨[], _, [], _, rfl, rfl, .nil, h⟩
    | cons c before =>
      obtain ⟨rfl, hrest⟩ := List.cons.inj hl
      obtain ⟨before', behind', first, last, rfl, rfl, hfirst, hlast⟩ := ih hrest
      exact ⟨c :: before', behind', first, last, rfl, rfl, .keep c hfirst, hlast⟩
  | insert b h ih =>
    obtain ⟨before', behind', first, last, rfl, rfl, hfirst, hlast⟩ := ih hl
    exact ⟨b :: before', behind', b :: first, last, rfl, rfl, .insert b hfirst, hlast⟩

end Interleaved

namespace Interpreter

variable {S C E K O : Type} {it it₁ it' : Interpreter S C E K O}
  {told more : List (Occurrence S C E O)} {first : Occurrence S C E O}

/-- A move leads from `it` to `it₁` while nobody else sends, and it led to `it'` while others sent
after the first thing that it told.  What is sent before that is sent before the move. -/
structure Meanwhile (it it₁ it' : Interpreter S C E K O) : Prop where
  same : it' = it₁.amid it'.inbox.queue it'.recorded
  told : ∃ first rest sent rest', it₁.journal = it.journal ++ first :: rest ∧
    it'.journal = it.journal ++ first :: rest' ∧ Interleaved rest sent rest' ∧
    (∀ o ∈ sent, ∃ origin event, o = (Output.send event).report origin it₁.inbox.accepting) ∧
    it'.inbox.waiting = it.inbox.waiting ++ (first :: rest').filterMap accepted?

namespace Meanwhile

/-- Perhaps nobody sends. -/
lemma refl (hadds : it.Adds told it₁) (hsome : told ≠ []) : it.Meanwhile it₁ it₁ := by
  obtain ⟨first, rest, rfl⟩ := List.exists_cons_of_ne_nil hsome
  refine ⟨rfl, first, rest, [], rest, hadds.journal, hadds.journal, .refl rest, ?_, hadds.waiting⟩
  simp

lemma exists_amid (h : it.Meanwhile it₁ it') :
    ∃ queue recorded, it' = it₁.amid queue recorded :=
  ⟨_, _, h.same⟩

/-- What the move tells while others send. -/
theorem adds (h : it.Meanwhile it₁ it') (hadds : it.Adds told it₁) :
    ∃ first rest sent rest', told = first :: rest ∧ Interleaved rest sent rest' ∧
      (∀ o ∈ sent, o.isReport = true) ∧ it.Adds (first :: rest') it' := by
  obtain ⟨first, rest, sent, rest', hjournal, hjournal', hwoven, hsent, hwaiting⟩ := h.told
  have htold : told = first :: rest := by
    rw [hadds.journal] at hjournal
    exact List.append_cancel_left hjournal
  have hreports : ∀ o ∈ sent, o.isReport = true := by
    intro o ho
    obtain ⟨origin, event, rfl⟩ := hsent o ho
    exact isReport_report origin _ _
  have htaken : (first :: rest').filterMap taken? = (first :: rest).filterMap taken? :=
    (Interleaved.keep first hwoven).filterMap_eq fun o ho =>
      taken?_of_isAside (isAside_of_isReport (hreports o ho))
  refine ⟨first, rest, sent, rest', htold, hwoven, hreports, hjournal', ?_, hwaiting, ?_⟩
  · rw [htaken, ← htold, hadds.taken]
  · rw [h.same]
    exact hadds.reception

end Meanwhile

/-- Who sends adds to the queue and to the journal alone. -/
lemma enqueue_eq_amid (it : Interpreter S C E K O) (origin : Origin) (event : E) :
    ∃ queue, it.enqueue origin event =
        it.amid queue ((Output.send event).report origin it.inbox.accepting :: it.recorded) ∧
      queue.toList = it.inbox.waiting ++
        [(Output.send event).report origin it.inbox.accepting].filterMap
          (accepted? : Occurrence S C E O → _) := by
  cases h : it.inbox.accepting with
  | true =>
    refine ⟨it.inbox.queue.push ⟨event, origin⟩, ?_, Queue.toList_push _ _⟩
    rw [enqueue_of_accepting h, Inbox.push, if_pos h]
    rfl
  | false =>
    refine ⟨it.inbox.queue, enqueue_of_not_accepting h origin event, ?_⟩
    exact (List.append_nil _).symm

end Interpreter

end Macrostep
