/-
# Listings

A checker finds things at places, and it is right if it finds each of them once, at its place, and
in the order of the places.  `Lists lt R l` says this of a list `l`, a relation `R` between places
and things, and an order `lt` of the places: the list is read off rows, one for each thing that `R`
has at some place, and the rows stand in order.

A relation has no more than one listing (`Lists.unique`).  The other laws follow the ways in which a
checker puts its list together: one part behind another (`Lists.append`), a part that is carried
to other places (`Lists.image`), and a part for each element of a list (`Lists.flatMap`).
-/
import Mathlib.Data.List.Basic
import Mathlib.Tactic.Lemma

namespace Macrostep

/-- The list tells everything that `R` has at some place, once for each place at which `R` has it,
and in the order of the places. -/
def Lists {P A : Type} (lt : P → P → Prop) (R : P → A → Prop) (l : List A) : Prop :=
  ∃ rows : List (P × A), rows.map Prod.snd = l ∧
    rows.Pairwise (fun row later => lt row.1 later.1) ∧ ∀ p a, (p, a) ∈ rows ↔ R p a

namespace Lists

variable {P Q A B : Type} {lt : P → P → Prop} {R R' : P → A → Prop}
  {l l' : List A}

lemma congr (h : Lists lt R l) (hiff : ∀ p a, R p a ↔ R' p a) : Lists lt R' l := by
  obtain ⟨rows, hrows, hsorted, hmem⟩ := h
  refine ⟨rows, hrows, hsorted, ?_⟩
  intro p a
  rw [hmem, hiff]

/-- Where there is nothing, nothing is told. -/
lemma nil (h : ∀ p a, ¬R p a) : Lists lt R [] :=
  ⟨[], rfl, .nil, fun p a => by simp [h p a]⟩

lemma single (p : P) (a : A) : Lists lt (fun q b => q = p ∧ b = a) [a] :=
  ⟨[(p, a)], rfl, List.pairwise_singleton _ _, fun q b => by simp⟩

/-- A thing that is told if something holds. -/
lemma onlyIf (c : Prop) [Decidable c] (p : P) (a : A) :
    Lists lt (fun q b => c ∧ q = p ∧ b = a) (if c then [a] else []) := by
  by_cases h : c
  · rw [if_pos h]
    exact (single p a).congr fun q b => by simp [h]
  · rw [if_neg h]
    exact nil fun q b hq => h hq.1

/-- A thing that is told unless all is well. -/
lemma exceptWhen (well : Prop) [Decidable well] (p : P) (a : A) :
    Lists lt (fun q b => ¬well ∧ q = p ∧ b = a) (if well then [] else [a]) := by
  rw [← ite_not]
  exact onlyIf (¬well) p a

/-- Something is told exactly where there is something. -/
lemma ne_nil_iff (h : Lists lt R l) : l ≠ [] ↔ ∃ p a, R p a := by
  obtain ⟨rows, rfl, -, hmem⟩ := h
  rw [Ne, List.map_eq_nil_iff]
  constructor
  · intro hrows
    obtain ⟨⟨p, a⟩, hrow⟩ := List.exists_mem_of_ne_nil rows hrows
    exact ⟨p, a, (hmem p a).mp hrow⟩
  · rintro ⟨p, a, hR⟩
    exact List.ne_nil_of_mem ((hmem p a).mpr hR)

/-- One part stands behind another if all its places do. -/
lemma append (h : Lists lt R l) (h' : Lists lt R' l')
    (hlt : ∀ p a q b, R p a → R' q b → lt p q) :
    Lists lt (fun p a => R p a ∨ R' p a) (l ++ l') := by
  obtain ⟨rows, rfl, hsorted, hmem⟩ := h
  obtain ⟨rows', rfl, hsorted', hmem'⟩ := h'
  refine ⟨rows ++ rows', List.map_append, List.pairwise_append.mpr ⟨hsorted, hsorted', ?_⟩, ?_⟩
  · rintro ⟨p, a⟩ hrow ⟨q, b⟩ hlater
    exact hlt p a q b ((hmem p a).mp hrow) ((hmem' q b).mp hlater)
  · intro p a
    rw [List.mem_append, hmem, hmem']

/-- A part keeps its order when it is carried to other places and told in other words. -/
lemma image (h : Lists lt R l) (lt' : Q → Q → Prop) (f : P → Q) (g : A → B)
    (hlt : ∀ p q, lt p q → lt' (f p) (f q)) :
    Lists lt' (fun q b => ∃ p a, R p a ∧ q = f p ∧ b = g a) (l.map g) := by
  obtain ⟨rows, rfl, hsorted, hmem⟩ := h
  refine ⟨rows.map fun row => (f row.1, g row.2), by simp, ?_, ?_⟩
  · rw [List.pairwise_map]
    exact hsorted.imp fun {row later} hrow => hlt _ _ hrow
  · intro q b
    simp only [List.mem_map, Prod.exists, Prod.mk.injEq]
    constructor
    · rintro ⟨p, a, hrow, rfl, rfl⟩
      exact ⟨p, a, (hmem p a).mp hrow, rfl, rfl⟩
    · rintro ⟨p, a, hR, rfl, rfl⟩
      exact ⟨p, a, (hmem p a).mpr hR, rfl, rfl⟩

/-- A part for each element of a list, where the places of later elements come later. -/
theorem flatMap {X : Type} {xs : List X} {R : Nat → X → P → A → Prop} {f : X → List A}
    (h : ∀ i x, xs[i]? = some x → Lists lt (R i x) (f x))
    (hlt : ∀ i x j y p a q b, i < j → R i x p a → R j y q b → lt p q) :
    Lists lt (fun p a => ∃ i x, xs[i]? = some x ∧ R i x p a) (xs.flatMap f) := by
  induction xs generalizing R with
  | nil => exact nil (by simp)
  | cons x xs ih =>
    have hrest : Lists lt (fun p a => ∃ i y, xs[i]? = some y ∧ R (i + 1) y p a) (xs.flatMap f) := by
      refine ih (R := fun i => R (i + 1)) ?_ ?_
      · intro i y hy
        exact h (i + 1) y hy
      · intro i y j z p a q b hij
        exact hlt (i + 1) y (j + 1) z p a q b (by omega)
    have hfirst : Lists lt (R 0 x) (f x) := h 0 x rfl
    refine (hfirst.append hrest ?_).congr ?_
    · rintro p a q b hp ⟨i, y, -, hq⟩
      exact hlt 0 x (i + 1) y p a q b (by omega) hp hq
    · intro p a
      constructor
      · rintro (hp | ⟨i, y, hy, hp⟩)
        · exact ⟨0, x, rfl, hp⟩
        · exact ⟨i + 1, y, hy, hp⟩
      · rintro ⟨i, y, hy, hp⟩
        cases i with
        | zero =>
          obtain rfl : x = y := by simpa using hy
          exact .inl hp
        | succ i => exact .inr ⟨i, y, hy, hp⟩

/-- A relation has no more than one listing. -/
theorem unique (hasymm : ∀ p q, lt p q → ¬lt q p) (h : Lists lt R l) (h' : Lists lt R l') :
    l = l' := by
  obtain ⟨rows, rfl, hsorted, hmem⟩ := h
  obtain ⟨rows', rfl, hsorted', hmem'⟩ := h'
  have hnodup {rows : List (P × A)} (hsorted : rows.Pairwise fun row later => lt row.1 later.1) :
      rows.Nodup := by
    refine hsorted.imp fun {row later} hrow => ?_
    rintro rfl
    exact hasymm _ _ hrow hrow
  have hperm : rows.Perm rows' := by
    rw [List.perm_ext_iff_of_nodup (hnodup hsorted) (hnodup hsorted')]
    rintro ⟨p, a⟩
    rw [hmem, hmem']
  -- rows with the same content in the same order are the same rows
  have heq : rows = rows' := by
    refine hperm.eq_of_pairwise ?_ hsorted hsorted'
    intro row later _ _ hlt hgt
    exact absurd hgt (hasymm _ _ hlt)
  rw [heq]

end Lists

end Macrostep
