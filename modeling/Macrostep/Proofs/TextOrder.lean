/-
# The order of texts

Texts are compared character by character, by the numbers of the characters.  Their octets in UTF-8
are in the same order (`octetsOf_lt_iff`): the first octet of a character tells how many there
are, characters with more octets have greater numbers, and the octets of one character spell its
number with the leading digits first.
-/
import Mathlib.Data.String.Basic
import Macrostep.Binary

namespace Macrostep

open Binary

/-- The octets of a text in UTF-8. -/
def octetsOf (s : String) : Octets := s.toUTF8.data.toList

lemma octetsOf_eq (s : String) : octetsOf s = s.toList.flatMap String.utf8EncodeChar := by
  have hencode : s.toUTF8 = s.toList.utf8Encode := by
    rw [← String.toByteArray_ofList, String.ofList_toList]
    rfl
  rw [octetsOf, hencode, List.utf8Encode, List.data_toByteArray]

lemma ofNat_cons_lt_ofNat_cons {m n : Nat} (hm : m < 256) (hn : n < 256) (u v : List UInt8) :
    UInt8.ofNat m :: u < UInt8.ofNat n :: v ↔ m < n ∨ m = n ∧ u < v := by
  rw [List.cons_lt_cons_iff, UInt8.lt_iff_toNat_lt, ← UInt8.toNat_inj, UInt8.toNat_ofNat',
    UInt8.toNat_ofNat', Nat.mod_eq_of_lt hm, Nat.mod_eq_of_lt hn]

/-- The octets of a greater character are greater, whatever follows them. -/
lemma utf8EncodeChar_append_lt {c d : Char} (h : c < d) (u v : List UInt8) :
    String.utf8EncodeChar c ++ u < String.utf8EncodeChar d ++ v := by
  have hlt : c.val.toNat < d.val.toNat := h
  have hbound : d.val.toNat < 1114112 := by
    rcases d.valid with hlow | ⟨-, hhigh⟩
    · exact Nat.lt_trans hlow (by decide)
    · exact hhigh
  simp only [String.utf8EncodeChar]
  generalize c.val.toNat = m at hlt
  generalize d.val.toNat = n at hlt hbound
  -- the cases are those of the numbers of octets; if they differ, the first octets decide
  split_ifs <;> try omega
  all_goals
    simp (disch := omega) only [List.cons_append, List.nil_append, ofNat_cons_lt_ofNat_cons]
    try omega
  -- both characters have four octets
  have hfirst : m / 262144 < n / 262144 ∨ m / 262144 = n / 262144 := by omega
  rcases hfirst with hfirst | hfirst
  · exact .inl (by omega)
  refine .inr ⟨by rw [hfirst], ?_⟩
  have hsecond : m / 4096 < n / 4096 ∨ m / 4096 = n / 4096 := by omega
  rcases hsecond with hsecond | hsecond
  · exact .inl (by omega)
  refine .inr ⟨by rw [hsecond], ?_⟩
  omega

lemma flatMap_utf8EncodeChar_lt {l m : List Char} (h : l < m) :
    l.flatMap String.utf8EncodeChar < m.flatMap String.utf8EncodeChar := by
  induction h with
  | @nil d m =>
    obtain ⟨o, os, hencode⟩ := List.exists_cons_of_ne_nil (String.utf8EncodeChar_ne_nil (c := d))
    rw [List.flatMap_nil, List.flatMap_cons, hencode, List.cons_append]
    exact List.nil_lt_cons o _
  | rel hlt => exact utf8EncodeChar_append_lt hlt _ _
  | cons _ ih => exact List.append_left_lt ih

/-- The octets of texts are in the order of the texts. -/
theorem octetsOf_lt_iff {s t : String} : octetsOf s < octetsOf t ↔ s < t := by
  have hmono {s t : String} (h : s < t) : octetsOf s < octetsOf t := by
    rw [octetsOf_eq, octetsOf_eq]
    exact flatMap_utf8EncodeChar_lt (String.lt_iff_toList_lt.mp h)
  refine ⟨fun h => ?_, hmono⟩
  rcases lt_trichotomy s t with hlt | rfl | hgt
  · exact hlt
  · exact absurd h (List.lt_irrefl _)
  · exact absurd h (List.lt_asymm (hmono hgt))

end Macrostep
