/-
# Readers that take no more than they need

A reader is frugal if what stands behind the part that it reads makes no difference to it: more may
be added there, and it reads the same and leaves the rest with what was added (`Frugal`).  Readers
that are made of frugal readers, one after the other, are frugal.  More generally, another reader
may read the same from the longer text (`Extends`), such as one that is granted more steps.

A frugal reader that uses up a whole text reads none of its beginnings, for otherwise it would have
left the remainder of the text unread (`Frugal.torn`).  So nothing that is lost at the end of a
record goes unnoticed, wherever the record was cut.
-/
import Macrostep.Checkpoint.Stored
import Macrostep.Proofs.BinaryRoundTrip
import Macrostep.Script.Context

namespace Macrostep

/-- What one reader takes from a text, the other takes from every longer text, and leaves the same
and what was added. -/
def Extends {A T : Type} (read read' : List A → Option (T × List A)) : Prop :=
  ∀ as x rest, read as = some (x, rest) → ∀ more, read' (as ++ more) = some (x, rest ++ more)

namespace Extends

variable {A T U : Type} {read read' : List A → Option (T × List A)}

lemma pure (x : T) : Extends (fun as : List A => some (x, as)) fun as => some (x, as) := by
  rintro as x rest h more
  obtain ⟨rfl, rfl⟩ := Prod.mk.inj (Option.some.inj h)
  rfl

lemma never : Extends (fun _ => none) read' := nofun

/-- One reader after the other. -/
lemma bind (h : Extends read read') {next next' : T × List A → Option (U × List A)}
    (hnext : ∀ x, Extends (fun as => next (x, as)) fun as => next' (x, as)) :
    Extends (fun as => (read as).bind next) fun as => (read' as).bind next' := by
  intro as y rest hread more
  obtain ⟨⟨x, between⟩, hfirst, hsecond⟩ := Option.bind_eq_some_iff.mp hread
  dsimp only
  rw [h as x between hfirst more, Option.bind_some]
  exact hnext x between y rest hsecond more

/-- What was read is turned into something else. -/
lemma map (h : Extends read read') {f : T × List A → U × List A}
    (hf : ∀ x, ∃ y, ∀ as, f (x, as) = (y, as)) :
    Extends (fun as => (read as).map f) fun as => (read' as).map f := by
  intro as y rest hread more
  obtain ⟨⟨x, between⟩, hfirst, hsecond⟩ := Option.map_eq_some_iff.mp hread
  obtain ⟨z, hz⟩ := hf x
  rw [hz] at hsecond
  obtain ⟨rfl, rfl⟩ := Prod.mk.inj hsecond
  dsimp only
  rw [h as x between hfirst more, Option.map_some, hz]

end Extends

/-- What stands behind the part that a reader takes makes no difference to it. -/
abbrev Frugal {A T : Type} (read : List A → Option (T × List A)) : Prop := Extends read read

/-- Where a frugal reader uses up everything, it finds nothing in any part that is cut off at the
end. -/
theorem Frugal.torn {A T : Type} {read : List A → Option (T × List A)} (h : Frugal read)
    {torn lost : List A} {x : T} (hread : read (torn ++ lost) = some (x, [])) (hlost : lost ≠ []) :
    read torn = none := by
  cases hpart : read torn with
  | none => rfl
  | some found =>
    obtain ⟨y, rest⟩ := found
    have hwhole := h torn y rest hpart lost
    rw [hread] at hwhole
    have hnone : [] = rest ++ lost := (Prod.mk.inj (Option.some.inj hwhole)).2
    exact absurd (List.append_eq_nil_iff.mp hnone.symm).2 hlost

/-! ## Binary records -/

namespace Binary

variable {T : Type} {read : Reader T}

lemma frugal_readNat (width : Nat) : Frugal (readNat width) := by
  induction width with
  | zero => exact .pure 0
  | succ width ih =>
    rintro (_ | ⟨o, os⟩) n rest h more
    · cases h
    · exact ih.map (fun _ => ⟨_, fun _ => rfl⟩) os n rest h more

lemma frugal_readOctets (count : Nat) : Frugal (readOctets count) := by
  intro os taken rest h more
  unfold readOctets at h ⊢
  split at h
  · rename_i hcount
    rw [List.splitAt_eq] at h
    obtain ⟨rfl, rfl⟩ := Prod.mk.inj (Option.some.inj h)
    rw [if_pos (by rw [List.length_append]; omega), List.splitAt_eq,
      List.take_append_of_le_length hcount, List.drop_append_of_le_length hcount]
  · cases h

/-- A text is cut in its length, which leaves too few octets for the length, or behind it, which
leaves too few for the text. -/
lemma frugal_readText : Frugal readText := by
  refine (frugal_readNat 8).bind fun length => (frugal_readOctets length).bind fun octets => ?_
  dsimp only
  cases String.fromUTF8? ⟨octets.toArray⟩ with
  | none => exact .never
  | some s => exact .pure s

lemma frugal_readOption (h : Frugal read) : Frugal (readOption read) := by
  rintro os value rest hread more
  unfold readOption at hread
  split at hread
  · obtain ⟨rfl, rfl⟩ := Prod.mk.inj (Option.some.inj hread)
    rfl
  · exact h.map (fun _ => ⟨_, fun _ => rfl⟩) _ _ _ hread more
  · cases hread

lemma frugal_readMany (h : Frugal read) (count : Nat) : Frugal (readMany read count) := by
  induction count with
  | zero => exact .pure []
  | succ count ih => exact h.bind fun x => ih.bind fun xs => .pure (x :: xs)

lemma frugal_readList (h : Frugal read) : Frugal (readList read) :=
  (frugal_readNat 8).bind (frugal_readMany h)

end Binary

namespace Stored

/-- Values whose reader takes no more than it needs. -/
class Thrifty (T : Type) [Stored T] : Prop where
  frugal : Frugal (read : Binary.Reader T)

export Thrifty (frugal)

open Binary

instance : Thrifty String := ⟨frugal_readText⟩

instance : Thrifty Int64 := ⟨(frugal_readNat 8).map fun _ => ⟨_, fun _ => rfl⟩⟩

instance : Thrifty UInt32 := ⟨(frugal_readNat 4).map fun _ => ⟨_, fun _ => rfl⟩⟩

instance : Thrifty Time.Timestamp where
  frugal := by
    refine frugal_readText.bind fun s => ?_
    dsimp only
    cases Time.Timestamp.ofText? s.toList with
    | none => exact .never
    | some t => exact .pure t

section

variable {T : Type} [Stored T] [Thrifty T]

instance : Thrifty (List T) := ⟨frugal_readList frugal⟩

instance : Thrifty (Option T) := ⟨frugal_readOption frugal⟩

end

variable {S C : Type} [Stored S] [Stored C] [Thrifty S] [Thrifty C]

instance : Thrifty (Entry S) where
  frugal := (frugal (T := S)).bind fun source => (frugal (T := S)).bind fun target =>
    (frugal (T := Option String)).bind fun event =>
      (frugal (T := Time.Timestamp)).bind fun time => .pure (Entry.mk source target event time)

instance : Thrifty (History S) := ⟨(frugal (T := List (Entry S))).map fun _ => ⟨_, fun _ => rfl⟩⟩

instance : Thrifty (Checkpoint S C) where
  frugal := (frugal (T := UInt32)).bind fun version => (frugal (T := String)).bind fun id =>
    (frugal (T := Time.Timestamp)).bind fun timestamp =>
      (frugal (T := String)).bind fun machine => (frugal (T := S)).bind fun state =>
        (frugal (T := C)).bind fun context => (frugal (T := History S)).bind fun history =>
          .pure (Checkpoint.mk version id timestamp machine state context history)

instance : Thrifty Script.Context where
  frugal := (frugal (T := Int64)).bind fun n => (frugal (T := String)).bind fun s =>
    (frugal (T := List String)).bind fun log => (frugal (T := Option Int64)).bind fun opt =>
      .pure (Script.Context.mk n s log opt)

instance : Thrifty Script.MarkedState :=
  ⟨(frugal (T := String)).map fun _ => ⟨_, fun _ => rfl⟩⟩

instance : Thrifty Script.PlainState :=
  ⟨(frugal (T := String)).map fun _ => ⟨_, fun _ => rfl⟩⟩

end Stored

end Macrostep
