/-
# What is behind a JSON value

Most parts of a JSON text end with a character of their own, and a reader that has come to it does
not look further.  A number ends where a character follows that cannot belong to it, so the reader
of a number has to look ahead, and at the end of a text it takes for the whole number what may be
the beginning of another one.  Where it leaves something, it has seen the end (`Settled`).

So the text of a value other than a number is read in the same way whatever stands behind it
(`Json.extends_readers`), with all the steps that the longer text grants.  It follows that no
beginning of it spells anything (`Json.parse?_torn`), and that nothing but a gap may be added to it
(`Json.parse?_indented_append`).
-/
import Mathlib.Data.List.TakeWhile
import Macrostep.Proofs.ExactReaders
import Macrostep.Proofs.JsonRoundTrip

namespace Macrostep

open Decimal

/-- Where a reader leaves something, what stands behind makes no difference to it. -/
def Settled {A T : Type} (read : List A → Option (T × List A)) : Prop :=
  ∀ as x rest, read as = some (x, rest) → rest ≠ [] →
    ∀ more, read (as ++ more) = some (x, rest ++ more)

lemma Settled.pure {A T : Type} (x : T) : Settled fun as : List A => some (x, as) := by
  rintro as y rest h - more
  obtain ⟨rfl, rfl⟩ := Prod.mk.inj (Option.some.inj h)
  rfl

/-- One reader after the other, of which the second one leaves nothing of nothing. -/
lemma Settled.bind {A T U : Type} {read : List A → Option (T × List A)}
    {next : T × List A → Option (U × List A)} (h : Settled read)
    (hnext : ∀ x, Settled fun as => next (x, as))
    (hnil : ∀ x y rest, next (x, []) = some (y, rest) → rest = []) :
    Settled fun as => (read as).bind next := by
  intro as y rest hread hrest more
  obtain ⟨⟨x, between⟩, hfirst, hsecond⟩ := Option.bind_eq_some_iff.mp hread
  have hbetween : between ≠ [] := by
    rintro rfl
    exact hrest (hnil x y rest hsecond)
  dsimp only
  rw [h as x between hfirst hbetween more, Option.bind_some]
  exact hnext x between y rest hsecond hrest more

namespace Decimal

/-! ## Numbers -/

lemma digitsOf_cons (c : Char) (cs : List Char) : digitsOf (c :: cs) =
    if c.isDigit then (c :: (digitsOf cs).1, (digitsOf cs).2) else ([], c :: cs) := rfl

/-- Digits that do not go up to the end are the same whatever stands behind. -/
lemma digitsOf_append {cs : List Char} (h : (digitsOf cs).2 ≠ []) (more : List Char) :
    digitsOf (cs ++ more) = ((digitsOf cs).1, (digitsOf cs).2 ++ more) := by
  induction cs with
  | nil => exact absurd rfl h
  | cons c cs ih =>
    rw [List.cons_append, digitsOf_cons, digitsOf_cons]
    rw [digitsOf_cons] at h
    split at h
    · rename_i hc
      rw [if_pos hc, if_pos hc, ih h]
    · rename_i hc
      rw [if_neg hc, if_neg hc, List.cons_append]

/-- What is made of the digits in front is settled if anything stands behind them. -/
lemma settled_digits {T : Type} (f : List Char → Option T) :
    Settled fun cs => (f (digitsOf cs).1).map fun x => (x, (digitsOf cs).2) := by
  intro cs x rest h hrest more
  obtain ⟨y, hy, hpair⟩ := Option.map_eq_some_iff.mp h
  obtain ⟨rfl, rfl⟩ := Prod.mk.inj hpair
  dsimp only
  rw [digitsOf_append hrest, hy, Option.map_some]

/-- What the digits of an exponent stand for, after its sign. -/
def exponentOf? (sign : Option Char) : List Char → Option Exponent
  | [] => none
  | digits =>
    let size : Int := Text.valueOf digits
    some ⟨if sign = some '-' then -size else size, sign = some '+'⟩

/-- An exponent is made of its digits, which stand behind a sign or not. -/
lemma readExponent?_cons (c : Char) (cs : List Char) : readExponent? (c :: cs) =
    if c = '+' ∨ c = '-' then
      (exponentOf? (some c) (digitsOf cs).1).map fun e => (e, (digitsOf cs).2)
    else (exponentOf? none (digitsOf (c :: cs)).1).map fun e => (e, (digitsOf (c :: cs)).2) := by
  unfold readExponent?
  split
  rename_i sign text hsign
  have hparts : (sign, text) =
      if c = '+' ∨ c = '-' then (some c, cs) else (none, c :: cs) := by
    rw [← hsign]
    split
    · simp_all
    · simp_all
    · rename_i hplus hminus
      rw [if_neg]
      rintro (rfl | rfl)
      · exact hplus cs rfl
      · exact hminus cs rfl
  split at hparts
  · rename_i hc
    cases hparts
    rw [if_pos hc]
    rcases digitsOf cs with ⟨_ | ⟨d, digits⟩, rest⟩ <;> rfl
  · rename_i hc
    cases hparts
    rw [if_neg hc]
    rcases digitsOf (c :: cs) with ⟨_ | ⟨d, digits⟩, rest⟩ <;> rfl

lemma settled_readExponent : Settled readExponent? := by
  rintro (_ | ⟨c, cs⟩) e rest h hrest more
  · cases h
  rw [readExponent?_cons] at h
  rw [List.cons_append, readExponent?_cons]
  split at h
  · rename_i hsign
    rw [if_pos hsign]
    exact settled_digits (exponentOf? (some c)) cs e rest h hrest more
  · rename_i hsign
    rw [if_neg hsign]
    exact settled_digits (exponentOf? none) (c :: cs) e rest h hrest more

end Decimal

namespace Json

/-- What the digits before the point stand for. -/
def wholeOf? : List Char → Option (List Char)
  | [] => none
  | ['0'] => some ['0']
  | digits => if digits.head? = some '0' then none else some digits

lemma readWhole?_eq (cs : List Char) :
    readWhole? cs = (wholeOf? (digitsOf cs).1).map fun whole => (whole, (digitsOf cs).2) := by
  unfold readWhole? wholeOf?
  split <;> simp_all
  split <;> simp_all

lemma settled_readWhole : Settled readWhole? := by
  rw [funext readWhole?_eq]
  exact settled_digits wholeOf?

/-- What the digits behind the point stand for. -/
def placesOf? : List Char → Option (Option (List Char))
  | [] => none
  | digits => some (some digits)

lemma readPlaces?_point (cs : List Char) : readPlaces? ('.' :: cs) =
    (placesOf? (digitsOf cs).1).map fun places => (places, (digitsOf cs).2) := by
  rw [readPlaces?]
  rcases digitsOf cs with ⟨_ | ⟨d, digits⟩, rest⟩ <;> rfl

lemma readPlaces?_other {c : Char} (hc : c ≠ '.') (cs : List Char) :
    readPlaces? (c :: cs) = some (none, c :: cs) := by
  unfold readPlaces?
  split
  · simp_all
  · rfl

lemma settled_readPlaces : Settled readPlaces? := by
  rintro (_ | ⟨c, cs⟩) places rest h hrest more
  · cases h
    exact absurd rfl hrest
  by_cases hc : c = '.'
  · subst hc
    rw [readPlaces?_point] at h
    rw [List.cons_append, readPlaces?_point]
    exact settled_digits placesOf? cs places rest h hrest more
  · rw [readPlaces?_other hc] at h
    cases h
    exact readPlaces?_other hc (cs ++ more)

lemma settled_readPower : Settled readPower? := by
  rintro (_ | ⟨c, cs⟩) power rest h hrest more
  · cases h
    exact absurd rfl hrest
  rw [readPower?] at h
  rw [List.cons_append, readPower?]
  split at h
  · rename_i hc
    obtain ⟨⟨e, tail⟩, hread, hpair⟩ := Option.map_eq_some_iff.mp h
    obtain ⟨rfl, rfl⟩ := Prod.mk.inj hpair
    rw [if_pos hc, settled_readExponent cs e tail hread hrest more, Option.map_some]
  · rename_i hc
    cases h
    rw [if_neg hc, List.cons_append]

/-- A number of which the end was seen is the same whatever stands behind. -/
theorem settled_readNumeral (negative : Bool) : Settled (readNumeral? negative) := by
  refine settled_readWhole.bind (fun whole => settled_readPlaces.bind (fun places =>
    settled_readPower.bind (fun power => .pure (Numeral.mk negative whole places power))
      ?_) ?_) ?_
  all_goals
    intro x y rest h
    cases h
    rfl

/-! ## Words and strings -/

/-- A gap that is followed by something ends there, whatever stands behind. -/
lemma skipGap_append {c : Char} {cs tail : List Char} (h : skipGap cs = c :: tail)
    (more : List Char) : skipGap (cs ++ more) = c :: (tail ++ more) := by
  rw [skipGap] at h ⊢
  rw [List.dropWhile_append, h]
  rfl

lemma ne_nil_of_skipGap {c : Char} {cs tail : List Char} (h : skipGap cs = c :: tail) :
    cs ≠ [] := by
  rintro rfl
  cases h

lemma frugal_readWord (word : List Char) (value : Json) : Frugal (readWord? word value) := by
  intro cs read rest h more
  unfold readWord? at h ⊢
  split at h
  · rename_i hword
    obtain ⟨tail, rfl⟩ := List.isPrefixOf_iff_prefix.mp hword
    cases h
    rw [List.append_assoc, if_pos (by simp), List.drop_left, List.drop_left]
  · cases h

lemma frugal_readHex4 : Frugal readHex4? := by
  rintro (_ | ⟨a, _ | ⟨b, _ | ⟨c, _ | ⟨d, cs⟩⟩⟩⟩) n rest h more
  iterate 4 cases h
  simp only [List.cons_append, readHex4?, Option.bind_eq_bind, Option.bind_eq_some_iff] at h ⊢
  obtain ⟨i, hi, j, hj, k, hk, l, hl, hread⟩ := h
  cases hread
  exact ⟨i, hi, j, hj, k, hk, l, hl, rfl⟩

/-- The pieces of a string literal are the same whatever stands behind its closing quote. -/
lemma extends_readPieces {steps steps' : Nat} (hsteps : steps ≤ steps') :
    Extends (readPieces steps) (readPieces steps') := by
  induction steps generalizing steps' with
  | zero => exact .never
  | succ steps ih =>
    obtain ⟨steps', rfl⟩ := Nat.exists_eq_add_one_of_ne_zero (show steps' ≠ 0 by omega)
    have hnext (piece : Piece) :
        Extends (fun cs => (readPieces steps cs).bind fun r => some (piece :: r.1, r.2))
          fun cs => (readPieces steps' cs).bind fun r => some (piece :: r.1, r.2) :=
      (ih (by omega)).bind fun pieces => .pure (piece :: pieces)
    rintro (_ | ⟨c, cs⟩) pieces rest hread more
    · cases hread
    rw [List.cons_append]
    unfold readPieces at hread ⊢
    split at hread
    · rename_i hquote
      cases hread
      rw [if_pos hquote]
    rename_i hquote
    rw [if_neg hquote]
    split at hread
    · rename_i hescape
      rw [if_pos hescape]
      cases cs with
      | nil => cases hread
      | cons e cs =>
        dsimp only [List.cons_append] at hread ⊢
        split at hread
        · rename_i hunit
          rw [if_pos hunit]
          exact (frugal_readHex4.bind fun value => hnext (.unit value)) cs pieces rest hread more
        · rename_i hunit
          rw [if_neg hunit]
          cases hshort : shortEscape? e with
          | none => rw [hshort] at hread; cases hread
          | some c =>
            rw [hshort] at hread
            exact hnext (.char c) cs pieces rest hread more
    rename_i hescape
    rw [if_neg hescape]
    split at hread
    · cases hread
    · rename_i hcontrol
      rw [if_neg hcontrol]
      exact hnext (.char c) cs pieces rest hread more

lemma frugal_readString : Frugal readString? := by
  intro cs content rest hread more
  have hpieces : Extends (readPieces (cs.length + 1)) (readPieces ((cs ++ more).length + 1)) :=
    extends_readPieces (by rw [List.length_append]; omega)
  exact (hpieces.map fun _ => ⟨_, fun _ => rfl⟩) cs content rest hread more

/-! ## Values -/

/-- Whether the end of a value was seen: something stands behind it, or it is no number. -/
def Ends (value : Json) (rest : List Char) : Prop := rest ≠ [] ∨ ∀ n, value ≠ .number n

/-- What is read as a value with so many steps is read as the same with more of them from every
longer text, if its end was seen. -/
def ExtendsValues (steps steps' : Nat) : Prop :=
  ∀ cs value rest, readValue steps cs = some (value, rest) → Ends value rest →
    ∀ more, readValue steps' (cs ++ more) = some (value, rest ++ more)

variable {steps steps' : Nat}

lemma extendsElements_succ (hvalues : ExtendsValues steps steps')
    (helements : Extends (readElements steps) (readElements steps')) :
    Extends (readElements (steps + 1)) (readElements (steps' + 1)) := by
  intro cs values rest hread more
  rw [readElements] at hread ⊢
  split at hread
  · cases hread
  rename_i value behind hvalue
  have hextend {c : Char} {tail : List Char} (hgap : skipGap behind = c :: tail) :=
    hvalues cs value behind hvalue (.inl (ne_nil_of_skipGap hgap)) more
  split at hread
  · rename_i tail hcomma
    simp only [hextend hcomma, skipGap_append hcomma]
    exact (helements.map fun _ => ⟨_, fun _ => rfl⟩) tail values rest hread more
  · rename_i tail hbracket
    simp only [hextend hbracket, skipGap_append hbracket]
    cases hread
    rfl
  · cases hread

lemma extendsMembers_succ (hvalues : ExtendsValues steps steps')
    (hmembers : Extends (readMembers steps) (readMembers steps')) :
    Extends (readMembers (steps + 1)) (readMembers (steps' + 1)) := by
  intro cs members rest hread more
  rw [readMembers] at hread ⊢
  split at hread
  · rename_i quoted hquote
    split at hread
    · cases hread
    rename_i name named hname
    have hnamed := frugal_readString quoted name named hname more
    split at hread
    · rename_i text hcolon
      split at hread
      · cases hread
      rename_i value behind hvalue
      have hextend {c : Char} {tail : List Char} (hgap : skipGap behind = c :: tail) :=
        hvalues text value behind hvalue (.inl (ne_nil_of_skipGap hgap)) more
      simp only [skipGap_append hquote, hnamed, skipGap_append hcolon]
      split at hread
      · rename_i tail hcomma
        simp only [hextend hcomma, skipGap_append hcomma]
        exact (hmembers.map fun _ => ⟨_, fun _ => rfl⟩) tail members rest hread more
      · rename_i tail hbrace
        simp only [hextend hbrace, skipGap_append hbrace]
        cases hread
        rfl
      · cases hread
    · cases hread
  · cases hread

/-- A number of which the end was seen is extended, as a value. -/
lemma readNumber_append {negative : Bool} {cs rest : List Char} {value : Json}
    (hread : (readNumeral? negative cs).map (fun (n, rest) => (Json.number n, rest)) =
      some (value, rest)) (hend : Ends value rest) (more : List Char) :
    (readNumeral? negative (cs ++ more)).map (fun (n, rest) => (Json.number n, rest)) =
      some (value, rest ++ more) := by
  obtain ⟨⟨n, tail⟩, hnumeral, hpair⟩ := Option.map_eq_some_iff.mp hread
  obtain ⟨rfl, rfl⟩ := Prod.mk.inj hpair
  have hrest : tail ≠ [] := hend.resolve_right fun h => h n rfl
  rw [settled_readNumeral negative cs n tail hnumeral hrest more, Option.map_some]

lemma readElements_nil (steps : Nat) : readElements steps [] = none := by
  rcases steps with _ | _ | steps <;> simp [readElements, readValue, skipGap]

lemma readMembers_nil (steps : Nat) : readMembers steps [] = none := by
  cases steps <;> simp [readMembers, skipGap]

lemma extends_object (hmembers : Extends (readMembers steps) (readMembers steps')) :
    Extends
      (fun cs => match skipGap cs with
        | '\x7d' :: rest => some (.object [], rest)
        | rest => (readMembers steps rest).map fun (members, rest) => (.object members, rest))
      fun cs => match skipGap cs with
        | '\x7d' :: rest => some (Json.object [], rest)
        | rest => (readMembers steps' rest).map fun (members, rest) => (.object members, rest) := by
  intro cs value rest hread more
  dsimp only at hread ⊢
  split at hread
  · rename_i tail hbrace
    simp only [skipGap_append hbrace]
    cases hread
    rfl
  rename_i hother
  cases hnext : skipGap cs with
  | nil =>
    rw [hnext, readMembers_nil] at hread
    cases hread
  | cons c tail =>
    rw [skipGap_append hnext]
    split
    · exact (hother tail (by simp_all)).elim
    · rw [hnext] at hread
      exact (hmembers.map fun _ => ⟨_, fun _ => rfl⟩) (c :: tail) value rest hread more

lemma extends_array (helements : Extends (readElements steps) (readElements steps')) :
    Extends
      (fun cs => match skipGap cs with
        | ']' :: rest => some (.array [], rest)
        | rest => (readElements steps rest).map fun (elements, rest) => (.array elements, rest))
      fun cs => match skipGap cs with
        | ']' :: rest => some (Json.array [], rest)
        | rest => (readElements steps' rest).map fun (elements, rest) => (.array elements, rest) := by
  intro cs value rest hread more
  dsimp only at hread ⊢
  split at hread
  · rename_i tail hbracket
    simp only [skipGap_append hbracket]
    cases hread
    rfl
  rename_i hother
  cases hnext : skipGap cs with
  | nil =>
    rw [hnext, readElements_nil] at hread
    cases hread
  | cons c tail =>
    rw [skipGap_append hnext]
    split
    · exact (hother tail (by simp_all)).elim
    · rw [hnext] at hread
      exact (helements.map fun _ => ⟨_, fun _ => rfl⟩) (c :: tail) value rest hread more

lemma extendsValues_succ (helements : Extends (readElements steps) (readElements steps'))
    (hmembers : Extends (readMembers steps) (readMembers steps')) :
    ExtendsValues (steps + 1) (steps' + 1) := by
  intro cs value rest hread hend more
  rw [readValue] at hread ⊢
  split at hread
  · cases hread
  rename_i c cs hgap
  simp only [skipGap_append hgap]
  split at hread
  · rw [if_pos ‹c = '\x7b'›]
    exact extends_object hmembers cs value rest hread more
  rw [if_neg ‹¬c = '\x7b'›]
  split at hread
  · rw [if_pos ‹c = '['›]
    exact extends_array helements cs value rest hread more
  rw [if_neg ‹¬c = '['›]
  split at hread
  · rw [if_pos ‹c = '"'›]
    exact (frugal_readString.map fun _ => ⟨_, fun _ => rfl⟩) cs value rest hread more
  rw [if_neg ‹¬c = '"'›]
  split at hread
  · rw [if_pos ‹c = '-'›]
    exact readNumber_append hread hend more
  rw [if_neg ‹¬c = '-'›]
  split at hread
  · rw [if_pos ‹c = 'n'›]
    exact frugal_readWord _ _ (c :: cs) value rest hread more
  rw [if_neg ‹¬c = 'n'›]
  split at hread
  · rw [if_pos ‹c = 't'›]
    exact frugal_readWord _ _ (c :: cs) value rest hread more
  rw [if_neg ‹¬c = 't'›]
  split at hread
  · rw [if_pos ‹c = 'f'›]
    exact frugal_readWord _ _ (c :: cs) value rest hread more
  rw [if_neg ‹¬c = 'f'›]
  exact readNumber_append hread hend more

theorem extends_readers (hsteps : steps ≤ steps') : ExtendsValues steps steps' ∧
    Extends (readElements steps) (readElements steps') ∧
    Extends (readMembers steps) (readMembers steps') := by
  induction steps generalizing steps' with
  | zero =>
    refine ⟨fun cs value rest hread => ?_, fun cs values rest hread => ?_,
      fun cs members rest hread => ?_⟩
    · rw [readValue] at hread; cases hread
    · rw [readElements] at hread; cases hread
    · rw [readMembers] at hread; cases hread
  | succ steps ih =>
    obtain ⟨steps', rfl⟩ := Nat.exists_eq_add_one_of_ne_zero (show steps' ≠ 0 by omega)
    obtain ⟨hvalues, helements, hmembers⟩ := ih (show steps ≤ steps' by omega)
    exact ⟨extendsValues_succ helements hmembers, extendsElements_succ hvalues helements,
      extendsMembers_succ hvalues hmembers⟩

/-! ## Whole texts -/

/-- The characters with which values begin that are no numbers. -/
def openings : List Char := ['\x7b', '[', '"', 'n', 't', 'f']

lemma indented_opening (level : Nat) {value : Json} (hvalue : ∀ n, value ≠ .number n) :
    ∃ c ∈ openings, ∃ tail, indented level value = c :: tail := by
  cases value with
  | null => exact ⟨'n', by decide, _, rfl⟩
  | bool value =>
    cases value with
    | true => exact ⟨'t', by decide, _, rfl⟩
    | false => exact ⟨'f', by decide, _, rfl⟩
  | number n => exact absurd rfl (hvalue n)
  | string content => exact ⟨'"', by decide, _, rfl⟩
  | array elements => cases elements <;> exact ⟨'[', by decide, _, rfl⟩
  | object members => cases members <;> exact ⟨'\x7b', by decide, _, rfl⟩

lemma ne_number_of_opening {c : Char} {cs rest : List Char} {value : Json} (hc : c ∈ openings)
    (hread : readValue steps (c :: cs) = some (value, rest)) (n : Numeral) : value ≠ .number n := by
  rintro rfl
  have hopen : openings.all (fun c => !isGap c) = true := rfl
  have hgap : isGap c = false := by simpa using List.all_eq_true.mp hopen c hc
  cases steps with
  | zero => rw [readValue] at hread; cases hread
  | succ steps =>
    rw [readValue, skipGap_cons hgap] at hread
    simp only [openings, List.mem_cons, List.not_mem_nil, or_false] at hc
    rcases hc with rfl | rfl | rfl | rfl | rfl | rfl
    · simp only [if_true] at hread
      split at hread <;> simp at hread
    · simp only [Char.reduceEq, if_false, if_true] at hread
      split at hread <;> simp at hread
    all_goals simp [readWord?] at hread

/-- No beginning of the text of a value spells anything, unless the value is a number. -/
theorem parse?_torn {value : Json} (h : WellSpelled value) (hvalue : ∀ n, value ≠ .number n)
    {torn lost : List Char} (htext : torn ++ lost = indented 0 value) (hlost : lost ≠ []) :
    parse? torn = none := by
  cases torn with
  | nil => rfl
  | cons c torn =>
    obtain ⟨c', hc, tail, hopening⟩ := indented_opening 0 hvalue
    obtain rfl : c = c' := by
      rw [hopening] at htext
      exact (List.cons.inj htext).1
    rw [parse?]
    cases hread : readValue ((c :: torn).length + 1) (c :: torn) with
    | none => rfl
    | some found =>
      -- What was read from the beginning is read from the whole text, of which it leaves something.
      obtain ⟨value', rest⟩ := found
      have hextend := (extends_readers (show (c :: torn).length + 1 ≤
        (indented 0 value).length + 1 by rw [← htext, List.length_append]; omega)).1
        (c :: torn) value' rest hread (.inr (ne_number_of_opening hc hread)) lost
      have hwhole := (readValue_indented ((indented 0 value).length + 1)).1 0 value [] [] h
        (by simp) (by omega) ended_nil
      rw [List.nil_append, List.append_nil] at hwhole
      rw [htext, hwhole] at hextend
      have hnone : [] = rest ++ lost := (Prod.mk.inj (Option.some.inj hextend)).2
      exact absurd (List.append_eq_nil_iff.mp hnone.symm).2 hlost

/-- Behind the text of a value that is no number nothing may stand but a gap. -/
theorem parse?_indented_append {value : Json} (h : WellSpelled value)
    (hvalue : ∀ n, value ≠ .number n) (extra : List Char) :
    parse? (indented 0 value ++ extra) =
      if extra.all isGap then some value else none := by
  have hwhole := (readValue_indented ((indented 0 value).length + 1)).1 0 value [] [] h
    (by simp) (by omega) ended_nil
  rw [List.nil_append, List.append_nil] at hwhole
  have hextend := (extends_readers (show (indented 0 value).length + 1 ≤
    (indented 0 value ++ extra).length + 1 by rw [List.length_append]; omega)).1
    (indented 0 value) value [] hwhole (.inr hvalue) extra
  rw [parse?, hextend]
  simp only [List.nil_append, List.isEmpty_iff, skipGap, List.dropWhile_eq_nil_iff,
    List.all_eq_true]

end Json

end Macrostep
