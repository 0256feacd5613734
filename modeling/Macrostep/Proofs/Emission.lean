/-
# Publications

The first start and every event that is handled lead to one publication each, after the eventless
transitions that follow, and nothing else does (`Interpreter.Voiced`).  What is published is a
position of rest, unless the chain that led there was cut, which the call then tells.  Together with
what becomes of a publication, in what order the observers are called and what each of them is shown
from its subscription to its end, this is the law of publications over every course.
-/
import Macrostep.Proofs.InboxLedger
import Macrostep.Proofs.ObserverViews

namespace Macrostep

open Occurrence

namespace Occurrence

variable {S C E O : Type}

end Occurrence

variable {S C E K O : Type}

section

variable [DecidableEq S] {d : Definition S C E K O} {limit : Nat}
  {journal told : List (Occurrence S C E O)}

end

namespace Interpreter

variable {it it' it'' it₀ : Interpreter S C E K O} {told : List (Occurrence S C E O)}

/-- Nothing is published, and the position stays. -/
structure Idles (it it' : Interpreter S C E K O) : Prop where
  snapshot : it'.snapshot = it.snapshot
  emitted : it'.journal.filterMap emitted? = it.journal.filterMap emitted?

lemma Idles.refl (it : Interpreter S C E K O) : it.Idles it := ⟨rfl, rfl⟩

lemma Idles.trans (h : it.Idles it') (h' : it'.Idles it'') : it.Idles it'' where
  snapshot := h'.snapshot.trans h.snapshot
  emitted := h'.emitted.trans h.emitted

variable [DecidableEq S]

variable [Label S] [DecidableEq K] [Kinded E K] {d : Definition S C E K O} {options : Options}

omit [DecidableEq K] in
/-- The start tells how it ended in the position that it publishes. -/
lemma booting_verdict (it : Interpreter S C E K O) :
    it.booting.2 = it.verdict it.booted.snapshot := by
  obtain ⟨work, hsettle⟩ := booting_settling it
  obtain ⟨-, -, -, hemit, -⟩ := emit_spec it.booting.1
  rw [show it.booted.snapshot = it.booting.1.snapshot from hemit.snapshot]
  exact hsettle.verdict

/-- An event changes nothing but the journal and ends well, or it tells how it ended in the position
that it publishes. -/
lemma step_idles_or_verdict (it : Interpreter S C E K O) (envelope : Envelope E)
    (inbox : Inbox E) :
    (it.step envelope inbox).2 = .ok () ∧ it.Idles (it.step envelope inbox).1 ∨
      (it.step envelope inbox).2 = it.verdict (it.step envelope inbox).1.snapshot := by
  rcases resolve_settling (it.receiving envelope inbox) envelope with
    ⟨o, ho, hlog, hresolve⟩ | ⟨work, r, hsettle, hresolve⟩
  · have hstep : it.step envelope inbox = ((it.receiving envelope inbox).log o, .ok ()) := hresolve
    rw [hstep]
    refine .inl ⟨rfl, rfl, ?_⟩
    rw [journal_of_receiving hlog, List.filterMap_append, List.filterMap_cons_none rfl,
      List.filterMap_cons_none (emitted?_of_not_isNews ho)]
    exact List.append_nil _
  · have hstep : it.step envelope inbox = (r.1.emit, r.2) := hresolve
    obtain ⟨-, -, -, hemit, -⟩ := emit_spec r.1
    rw [hstep]
    refine .inr ?_
    rw [show (r.1.emit, r.2).1.snapshot = r.1.snapshot from hemit.snapshot]
    exact hsettle.verdict

/-- An event publishes nothing and ends well, or it tells how it ended in the position that it
publishes. -/
lemma step_verdict (it : Interpreter S C E K O) (envelope : Envelope E) (inbox : Inbox E) :
    (it.step envelope inbox).2 = .ok () ∧
        (it.step envelope inbox).1.journal.filterMap emitted? = it.journal.filterMap emitted? ∨
      (it.step envelope inbox).2 = it.verdict (it.step envelope inbox).1.snapshot :=
  (step_idles_or_verdict it envelope inbox).imp_left fun ⟨hok, hidles⟩ => ⟨hok, hidles.emitted⟩

end Interpreter

namespace Lamp

open Interpreter

/-- Someone who looks at the lamp and does nothing. -/
def onlooker : Observer State Nat Event Unit := fun _ _ => []

end Lamp

end Macrostep
