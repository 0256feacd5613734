/-
# Queues

A first-in, first-out queue, kept as two lists so that neither adding nor taking an element walks
through the others.  What a queue holds is its list `toList`, the oldest element first; every
operation is described by what it does to that list.
-/

namespace Macrostep

/-- A queue: the elements of `front` come first, then those of `back` from its end. -/
structure Queue (A : Type) where
  /-- The older elements, the oldest first. -/
  front : List A := []
  /-- The newer elements, the newest first. -/
  back : List A := []

namespace Queue

variable {A : Type}

/-- The elements, the oldest first. -/
def toList (q : Queue A) : List A := q.front ++ q.back.reverse

/-- Whether there is no element. -/
def isEmpty (q : Queue A) : Bool := q.front.isEmpty && q.back.isEmpty

/-- Adds an element at the end. -/
def push (q : Queue A) (a : A) : Queue A := { q with back := a :: q.back }

/-- Takes the oldest element. -/
def pop? (q : Queue A) : Option (A × Queue A) :=
  match q.front with
  | a :: front => some (a, { q with front })
  | [] =>
    match q.back.reverse with
    | a :: front => some (a, { front })
    | [] => none

@[simp] theorem toList_empty : ({} : Queue A).toList = [] := rfl

@[simp] theorem toList_push (q : Queue A) (a : A) : (q.push a).toList = q.toList ++ [a] := by
  simp [toList, push]

@[simp] theorem isEmpty_iff (q : Queue A) : q.isEmpty = true ↔ q.toList = [] := by
  simp [isEmpty, toList]

/-- Taking an element takes the head of the list. -/
theorem toList_of_pop? {q rest : Queue A} {a : A} (h : q.pop? = some (a, rest)) :
    q.toList = a :: rest.toList := by
  obtain ⟨front, back⟩ := q
  cases front with
  | cons b front =>
    obtain ⟨rfl, rfl⟩ : b = a ∧ { front, back } = rest := by simpa [pop?] using h
    rfl
  | nil =>
    cases hb : back.reverse with
    | nil => simp [pop?, hb] at h
    | cons b front =>
      obtain ⟨rfl, rfl⟩ : b = a ∧ { front } = rest := by simpa [pop?, hb] using h
      simp [toList, hb]

@[simp] theorem pop?_eq_none_iff (q : Queue A) : q.pop? = none ↔ q.toList = [] := by
  obtain ⟨front, back⟩ := q
  cases front with
  | cons b front => simp [pop?, toList]
  | nil => cases hb : back.reverse <;> simp [pop?, toList, hb]

end Queue

end Macrostep
