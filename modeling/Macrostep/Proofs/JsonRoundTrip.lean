/-
# What is printed as JSON is read back

The reader of JSON texts takes exactly what the printer has written and leaves what follows it.
This is shown part by part: characters and string literals (`Json.readString?_quote`), numbers
(`Json.readNumeral?_text`), and then values with their elements and members, by induction on the
steps that the reader is granted (`Json.readValue_indented`).  So every value whose numbers and
strings can be spelled is the one that its text spells (`Json.parse?_indented`).
-/
import Macrostep.Json.Parser
import Macrostep.Json.Printer
import Macrostep.Proofs.Digits

namespace Macrostep.Json

open Decimal Text

/-! ## String literals -/

section

variable {c e : Char} {steps : Nat} {rest : List Char}

/-- The piece as which a character is read back. -/
def pieceOf (c : Char) : Piece :=
  if c.toNat < 0x20 ∧ c ∉ ['\x08', '\x0c', '\n', '\r', '\t'] then .unit c.toNat else .char c

/-- What the reader adds to the pieces that follow. -/
def prepend (piece : Piece) (read : List Piece × List Char) : List Piece × List Char :=
  (piece :: read.1, read.2)

lemma readPieces_short (hshort : shortEscape? e = some c) (he : e ≠ 'u') :
    readPieces (steps + 1) ('\\' :: e :: rest) =
      (readPieces steps rest).map (prepend (.char c)) := by
  simp only [readPieces, he, hshort, if_false, if_true, Char.reduceEq]
  cases readPieces steps rest <;> rfl

lemma hexValue?_hexDigit : ∀ n < 16, hexValue? (hexDigit n) = some n := by decide

lemma readPieces_unit {n : Nat} (hn : n < 0x20) :
    readPieces (steps + 1) ('\\' :: 'u' :: '0' :: '0' :: hexDigit (n / 16) :: hexDigit (n % 16) ::
      rest) = (readPieces steps rest).map (prepend (.unit n)) := by
  have hread : readHex4? ('0' :: '0' :: hexDigit (n / 16) :: hexDigit (n % 16) :: rest) =
      some (n, rest) := by
    have hhigh := hexValue?_hexDigit (n / 16) (by omega)
    have hlow := hexValue?_hexDigit (n % 16) (by omega)
    have hzero : hexValue? '0' = some 0 := rfl
    have hvalue : n / 16 * 16 + n % 16 = n := by omega
    simp [readHex4?, hhigh, hlow, hzero, hvalue]
  simp only [readPieces, hread, if_false, if_true, Char.reduceEq, Option.bind_eq_bind,
    Option.bind_some]
  cases readPieces steps rest <;> rfl

lemma readPieces_plain (hquote : c ≠ '"') (hback : c ≠ '\\') (hprint : 0x20 ≤ c.toNat) :
    readPieces (steps + 1) (c :: rest) = (readPieces steps rest).map (prepend (.char c)) := by
  have hlow : ¬c.toNat < 0x20 := by omega
  simp only [readPieces, hquote, hback, hlow, if_false]
  cases readPieces steps rest <;> rfl

/-- A character is read back as one piece. -/
lemma readPieces_escape (c : Char) (steps : Nat) (rest : List Char) :
    readPieces (steps + 1) (escape c ++ rest) =
      (readPieces steps rest).map (prepend (pieceOf c)) := by
  by_cases hshort : c ∈ ['"', '\\', '\x08', '\x0c', '\n', '\r', '\t']
  · simp only [List.mem_cons, List.not_mem_nil, or_false] at hshort
    rcases hshort with rfl | rfl | rfl | rfl | rfl | rfl | rfl <;>
      exact readPieces_short rfl (by decide)
  · simp only [List.mem_cons, List.not_mem_nil, or_false, not_or] at hshort
    obtain ⟨hquote, hback, hb, hf, hn, hr, ht⟩ := hshort
    by_cases hlow : c.toNat < 0x20
    · have hescape : escape c =
          ['\\', 'u', '0', '0', hexDigit (c.toNat / 16), hexDigit (c.toNat % 16)] := by
        simp [escape, hquote, hback, hb, hf, hn, hr, ht, hlow]
      have hpiece : pieceOf c = .unit c.toNat := by simp [pieceOf, hlow, hb, hf, hn, hr, ht]
      rw [hescape, hpiece]
      exact readPieces_unit hlow
    · have hescape : escape c = [c] := by
        simp [escape, hquote, hback, hb, hf, hn, hr, ht, hlow]
      have hpiece : pieceOf c = .char c := by simp [pieceOf, hlow]
      rw [hescape, hpiece]
      exact readPieces_plain hquote hback (Nat.le_of_not_lt hlow)

lemma readPieces_escaped (cs : List Char) (hsteps : cs.length < steps) (rest : List Char) :
    readPieces steps (cs.flatMap escape ++ '"' :: rest) = some (cs.map pieceOf, rest) := by
  induction cs generalizing steps with
  | nil =>
    obtain ⟨steps, rfl⟩ := Nat.exists_eq_add_one_of_ne_zero (Nat.ne_zero_of_lt hsteps)
    simp [readPieces]
  | cons c cs ih =>
    obtain ⟨steps, rfl⟩ := Nat.exists_eq_add_one_of_ne_zero (Nat.ne_zero_of_lt hsteps)
    rw [List.flatMap_cons, List.append_assoc, readPieces_escape,
      ih (by simpa using hsteps)]
    rfl

/-- The pieces spell the text that was written. -/
lemma spell?_pieces (cs : List Char) : spell? (cs.map pieceOf) = some cs := by
  induction cs with
  | nil => rfl
  | cons c cs ih =>
    rw [List.map_cons]
    by_cases hunit : c.toNat < 0x20 ∧ c ∉ ['\x08', '\x0c', '\n', '\r', '\t']
    · -- a control character is no surrogate, whatever comes after it
      have hpiece : pieceOf c = .unit c.toNat := by rw [pieceOf, if_pos hunit]
      have hlow := hunit.1
      have hhigh : ¬(0xD800 ≤ c.toNat ∧ c.toNat < 0xDC00) := by omega
      have hpair : ¬(0xDC00 ≤ c.toNat ∧ c.toNat < 0xE000) := by omega
      have hany : ¬(0xD800 ≤ c.toNat ∧ c.toNat < 0xE000) := by omega
      rw [hpiece]
      generalize cs.map pieceOf = pieces at ih
      have hcons : spell? (.unit c.toNat :: pieces) = (spell? pieces).map (c :: ·) := by
        cases pieces with
        | nil => simp [spell?, hany]
        | cons piece pieces => cases piece <;> simp [spell?, hhigh, hpair, hany]
      rw [hcons, ih]
      rfl
    · have hpiece : pieceOf c = .char c := by rw [pieceOf, if_neg hunit]
      rw [hpiece, spell?, ih]
      rfl

lemma length_le_flatMap_escape (cs : List Char) : cs.length ≤ (cs.flatMap escape).length := by
  induction cs with
  | nil => simp
  | cons c cs ih =>
    have hne : 0 < (escape c).length := by
      unfold escape
      repeat' split
      all_goals simp
    rw [List.flatMap_cons, List.length_append, List.length_cons]
    omega

/-- A string literal is read back as its text. -/
theorem readString?_quote (s : String) (rest : List Char) :
    readString? (s.toList.flatMap escape ++ '"' :: rest) = some (some s, rest) := by
  have hlength := length_le_flatMap_escape s.toList
  have hsteps : s.toList.length < (s.toList.flatMap escape ++ '"' :: rest).length + 1 := by
    rw [List.length_append]
    omega
  rw [readString?, readPieces_escaped s.toList hsteps]
  simp [spell?_pieces]

end

/-! ## Numbers -/

/-- A numeral as the reader of JSON accepts it: digits without an idle zero in front, a digit behind
the point, if there is a point, and no plus sign before a negative power of ten. -/
structure WellFormed (n : Numeral) : Prop where
  digits : ∀ c ∈ n.whole, c.isDigit = true
  some_digit : n.whole ≠ []
  no_idle_zero : n.whole.head? = some '0' → n.whole = ['0']
  places : ∀ ds, n.places = some ds → ds ≠ [] ∧ ∀ c ∈ ds, c.isDigit = true
  exponent : ∀ e, n.exponent = some e → e.plus = true → 0 ≤ e.value

/-- What follows a number does not continue it. -/
def Ended (rest : List Char) : Prop :=
  ∀ c tail, rest = c :: tail → c.isDigit = false ∧ c ≠ '.' ∧ c ≠ 'e' ∧ c ≠ 'E'

lemma ended_nil : Ended [] := nofun

lemma ended_cons {c : Char}
    (h : c.isDigit = false ∧ c ≠ '.' ∧ c ≠ 'e' ∧ c ≠ 'E') (rest : List Char) :
    Ended (c :: rest) := by
  intro c' tail heq
  rwa [← (List.cons.inj heq).1]

lemma Ended.noDigit {rest : List Char} (h : Ended rest) : NoDigit rest :=
  fun c tail heq => (h c tail heq).1

/-- The text of the places of a numeral, with the point. -/
def placesText : Option (List Char) → List Char
  | some digits => '.' :: digits
  | none => []

/-- The text of the power of ten of a numeral, with its mark. -/
def powerText : Option Exponent → List Char
  | some e => 'e' :: e.text
  | none => []

lemma text_eq (n : Numeral) :
    n.text = (if n.negative then ['-'] else []) ++
      (n.whole ++ (placesText n.places ++ powerText n.exponent)) := by
  rw [Numeral.text, List.append_assoc, List.append_assoc]
  cases n.places <;> cases n.exponent <;> rfl

section

variable {rest : List Char}

lemma readExponent?_text {e : Exponent} (hplus : e.plus = true → 0 ≤ e.value)
    (hrest : NoDigit rest) : readExponent? (e.text ++ rest) = some (e, rest) := by
  obtain ⟨value, plus⟩ := e
  obtain ⟨size, hsize⟩ : ∃ size, value.natAbs = size := ⟨_, rfl⟩
  obtain ⟨c, digits, hdecimal⟩ := List.exists_cons_of_ne_nil (decimal_ne_nil size)
  have hspan : digitsOf (decimal size ++ rest) = (decimal size, rest) :=
    digitsOf_of_digits (fun c hc => isDigit_of_mem_decimal hc) hrest
  have hvalue := valueOf_decimal size
  have hc : c.isDigit = true := isDigit_of_mem_decimal (by rw [hdecimal]; exact List.mem_cons_self)
  have hminus : c ≠ '-' := by rintro rfl; cases hc
  have hsign : c ≠ '+' := by rintro rfl; cases hc
  rw [hdecimal] at hspan hvalue
  rw [List.cons_append] at hspan
  cases plus with
  | true =>
    have hpos : ¬value < 0 := Int.not_lt.mpr (hplus rfl)
    have habs : (size : Int) = value := by omega
    simp [Exponent.text, signedDecimal, hpos, hsize, hdecimal, readExponent?, hspan, hvalue, habs]
  | false =>
    by_cases hneg : value < 0
    · have habs : -(size : Int) = value := by omega
      simp [Exponent.text, signedDecimal, hneg, hsize, hdecimal, readExponent?, hspan, hvalue, habs]
    · have habs : (size : Int) = value := by omega
      simp [Exponent.text, signedDecimal, hneg, hsize, hdecimal, readExponent?, hspan, hvalue, habs,
        hminus, hsign]

lemma readPower?_text {exponent : Option Exponent}
    (hplus : ∀ e, exponent = some e → e.plus = true → 0 ≤ e.value) (hrest : Ended rest) :
    readPower? (powerText exponent ++ rest) = some (exponent, rest) := by
  cases exponent with
  | none =>
    cases rest with
    | nil => rfl
    | cons c rest =>
      obtain ⟨-, -, hlower, hupper⟩ := hrest c rest rfl
      simp [powerText, readPower?, hlower, hupper]
  | some e =>
    have hexponent := readExponent?_text (hplus e rfl) hrest.noDigit
    simp [powerText, readPower?, hexponent]

/-- Behind the digits of a number there is no further digit. -/
lemma noDigit_powerText (exponent : Option Exponent) (hrest : Ended rest) :
    NoDigit (powerText exponent ++ rest) := by
  cases exponent with
  | none => exact hrest.noDigit
  | some e => exact noDigit_cons rfl _

lemma readPlaces?_text {places : Option (List Char)} {exponent : Option Exponent}
    (hplaces : ∀ ds, places = some ds → ds ≠ [] ∧ ∀ c ∈ ds, c.isDigit = true)
    (hrest : Ended rest) :
    readPlaces? (placesText places ++ (powerText exponent ++ rest)) =
      some (places, powerText exponent ++ rest) := by
  have hnext := noDigit_powerText exponent hrest
  cases places with
  | none =>
    have hpoint : ∀ tail, powerText exponent ++ rest ≠ '.' :: tail := by
      intro tail heq
      cases exponent with
      | none => exact (hrest '.' tail heq).2.1 rfl
      | some e => cases heq
    rw [placesText, List.nil_append, readPlaces?.eq_def]
    split
    · rename_i heq
      exact absurd heq (hpoint _)
    · rfl
  | some ds =>
    obtain ⟨hne, hdigits⟩ := hplaces ds rfl
    obtain ⟨c, ds, rfl⟩ := List.exists_cons_of_ne_nil hne
    have hspan := digitsOf_of_digits hdigits hnext
    rw [placesText, List.cons_append, readPlaces?, hspan]

lemma readWhole?_digits {digits : List Char} (hdigits : ∀ c ∈ digits, c.isDigit = true)
    (hne : digits ≠ []) (hzero : digits.head? = some '0' → digits = ['0'])
    (hrest : NoDigit rest) : readWhole? (digits ++ rest) = some (digits, rest) := by
  rw [readWhole?, digitsOf_of_digits hdigits hrest]
  split
  · rename_i heq
    exact absurd (Prod.mk.inj heq).1 hne
  · rename_i heq
    obtain ⟨rfl, rfl⟩ := Prod.mk.inj heq
    rfl
  · rename_i hother heq
    obtain ⟨rfl, rfl⟩ := Prod.mk.inj heq
    rw [if_neg fun hhead => hother (hzero hhead)]

/-- A number is read back after its sign. -/
theorem readNumeral?_text {n : Numeral} (h : WellFormed n) (hrest : Ended rest) :
    readNumeral? n.negative (n.whole ++ (placesText n.places ++ (powerText n.exponent ++ rest))) =
      some (n, rest) := by
  have hnext : NoDigit (placesText n.places ++ (powerText n.exponent ++ rest)) := by
    cases n.places with
    | none => exact noDigit_powerText n.exponent hrest
    | some ds => exact noDigit_cons rfl _
  rw [readNumeral?, readWhole?_digits h.digits h.some_digit h.no_idle_zero hnext]
  simp [readPlaces?_text h.places hrest, readPower?_text h.exponent hrest]

end

/-! ## Values -/

mutual

/-- Every number of a value can be read back, and every string spells a text. -/
def WellSpelled : Json → Prop
  | .number value => WellFormed value
  | .string content => content.isSome = true
  | .array elements => WellSpelledElements elements
  | .object members => WellSpelledMembers members
  | .null => True
  | .bool _ => True

/-- So it is with every value of a list. -/
def WellSpelledElements : List Json → Prop
  | [] => True
  | value :: rest => WellSpelled value ∧ WellSpelledElements rest

/-- So it is with every member of a list, and with their names. -/
def WellSpelledMembers : List (Option String × Json) → Prop
  | [] => True
  | (name, value) :: rest => name.isSome = true ∧ WellSpelled value ∧ WellSpelledMembers rest

end

lemma wellSpelledElements_iff (values : List Json) :
    WellSpelledElements values ↔ ∀ value ∈ values, WellSpelled value := by
  induction values with
  | nil => simp [WellSpelledElements]
  | cons value values ih => simp [WellSpelledElements, ih]

lemma wellSpelledMembers_iff (members : List (Option String × Json)) :
    WellSpelledMembers members ↔
      ∀ member ∈ members, member.1.isSome = true ∧ WellSpelled member.2 := by
  induction members with
  | nil => simp [WellSpelledMembers]
  | cons member members ih => simp [WellSpelledMembers, ih, and_assoc]

section

variable {gap rest : List Char} {steps level : Nat}

/-- A gap in front is passed over. -/
lemma skipGap_gap (hgap : ∀ c ∈ gap, isGap c = true) (cs : List Char) :
    skipGap (gap ++ cs) = skipGap cs := by
  induction gap with
  | nil => rfl
  | cons c gap ih =>
    rw [List.forall_mem_cons] at hgap
    rw [List.cons_append, skipGap, List.dropWhile_cons_of_pos hgap.1]
    exact ih hgap.2

lemma skipGap_cons {c : Char} (hc : isGap c = false) (cs : List Char) :
    skipGap (c :: cs) = c :: cs := by
  rw [skipGap, List.dropWhile_cons_of_neg (by simp [hc])]

lemma isGap_of_mem_newline {c : Char} (hc : c ∈ newline level) : isGap c = true := by
  rcases List.mem_cons.mp hc with rfl | hc
  · rfl
  · rw [List.eq_of_mem_replicate hc]
    rfl

/-- What is read of a text does not depend on the gap in front of it. -/
lemma skipGap_newline (level : Nat) {c : Char} (hc : isGap c = false) (cs : List Char) :
    skipGap (newline level ++ c :: cs) = c :: cs := by
  rw [skipGap_gap fun _ => isGap_of_mem_newline, skipGap_cons hc]

lemma isGap_of_isDigit {c : Char} (h : c.isDigit = true) : isGap c = false := by
  have hne (d : Char) (hd : d.isDigit = false) : c ≠ d := by
    rintro rfl
    rw [hd] at h
    cases h
  simp [isGap, hne ' ' rfl, hne '\n' rfl, hne '\t' rfl, hne '\r' rfl]

lemma text_head (n : Numeral) (h : WellFormed n) :
    ∃ c tail, n.text = c :: tail ∧ (c = '-' ∨ c.isDigit = true) := by
  obtain ⟨c, digits, hwhole⟩ := List.exists_cons_of_ne_nil h.some_digit
  have hc : c.isDigit = true := h.digits c (by simp [hwhole])
  rw [text_eq, hwhole]
  cases n.negative with
  | true => exact ⟨_, _, rfl, .inl rfl⟩
  | false => exact ⟨_, _, rfl, .inr hc⟩

/-- The text of a value begins neither with a gap nor with the end of an array. -/
lemma indented_head (level : Nat) {value : Json} (h : WellSpelled value) :
    ∃ c tail, indented level value = c :: tail ∧ isGap c = false ∧ c ≠ ']' := by
  cases value with
  | null => exact ⟨_, _, rfl, rfl, by decide⟩
  | bool value => cases value <;> exact ⟨_, _, rfl, rfl, by decide⟩
  | number n =>
    obtain ⟨c, tail, htext, hc⟩ := text_head n (by simpa [WellSpelled] using h)
    refine ⟨c, tail, htext, ?_⟩
    rcases hc with rfl | hc
    · exact ⟨rfl, by decide⟩
    · exact ⟨isGap_of_isDigit hc, by rintro rfl; cases hc⟩
  | string content => exact ⟨_, _, rfl, rfl, by decide⟩
  | array elements => cases elements <;> exact ⟨_, _, rfl, rfl, by decide⟩
  | object members => cases members <;> exact ⟨_, _, rfl, rfl, by decide⟩

lemma readWord?_word (word : List Char) (value : Json) (rest : List Char) :
    readWord? word value (word ++ rest) = some (value, rest) := by
  have hprefix : word.isPrefixOf (word ++ rest) = true := by simp
  rw [readWord?, if_pos hprefix, List.drop_left]

/-- A number is read back as a value. -/
lemma readValue_number {n : Numeral} (h : WellFormed n) (hgap : ∀ c ∈ gap, isGap c = true)
    (hrest : Ended rest) :
    readValue (steps + 1) (gap ++ (n.text ++ rest)) = some (.number n, rest) := by
  have hread := readNumeral?_text h hrest
  obtain ⟨c, digits, hwhole⟩ := List.exists_cons_of_ne_nil h.some_digit
  have hc : c.isDigit = true := h.digits c (by simp [hwhole])
  have hne (d : Char) (hd : d.isDigit = false) : c ≠ d := by
    rintro rfl
    rw [hd] at hc
    cases hc
  rw [readValue, skipGap_gap hgap, text_eq]
  cases hsign : n.negative with
  | true =>
    rw [hsign] at hread
    rw [if_pos rfl, List.append_assoc, List.singleton_append, skipGap_cons rfl]
    simp [hread]
  | false =>
    rw [hsign, hwhole] at hread
    rw [if_neg (by simp), List.nil_append, hwhole]
    simp only [List.cons_append] at hread ⊢
    rw [skipGap_cons (isGap_of_isDigit hc)]
    simp [hne '{' rfl, hne '[' rfl, hne '"' rfl, hne '-' rfl, hne 'n' rfl, hne 't' rfl,
      hne 'f' rfl, hread]

lemma ended_indentedElements (level : Nat) (values : List Json) (rest : List Char) :
    Ended (indentedElements level values ++ rest) := by
  cases values <;> exact ended_cons (by decide) _

lemma ended_indentedMembers (level : Nat) (members : List (Option String × Json))
    (rest : List Char) : Ended (indentedMembers level members ++ rest) := by
  cases members <;> exact ended_cons (by decide) _

lemma indentedElements_pos (level : Nat) (values : List Json) :
    0 < (indentedElements level values).length := by
  cases values <;> simp [indentedElements, newline]

lemma indentedMembers_pos (level : Nat) (members : List (Option String × Json)) :
    0 < (indentedMembers level members).length := by
  cases members <;> simp [indentedMembers, newline]

/-- A reader that is granted `steps` steps reads back values whose texts have at most that many
characters, whatever gap stands before them and whatever follows them. -/
def ReadsValues (steps : Nat) : Prop :=
  ∀ (level : Nat) (value : Json) (gap rest : List Char), WellSpelled value →
    (∀ c ∈ gap, isGap c = true) → (indented level value).length ≤ steps → Ended rest →
    readValue steps (gap ++ (indented level value ++ rest)) = some (value, rest)

/-- So it is with the elements of an array. -/
def ReadsElements (steps : Nat) : Prop :=
  ∀ (level : Nat) (value : Json) (values : List Json) (gap rest : List Char),
    WellSpelledElements (value :: values) → (∀ c ∈ gap, isGap c = true) →
    (indented (level + 1) value ++ indentedElements level values).length ≤ steps →
    readElements steps
        (gap ++ (indented (level + 1) value ++ (indentedElements level values ++ rest))) =
      some (value :: values, rest)

/-- So it is with the members of an object. -/
def ReadsMembers (steps : Nat) : Prop :=
  ∀ (level : Nat) (name : String) (value : Json) (members : List (Option String × Json))
    (gap rest : List Char),
    WellSpelledMembers ((some name, value) :: members) → (∀ c ∈ gap, isGap c = true) →
    (quote name ++ (indented (level + 1) value ++ indentedMembers level members)).length ≤ steps →
    readMembers steps
        (gap ++ (quote name ++ (':' :: ' ' :: (indented (level + 1) value ++
          (indentedMembers level members ++ rest))))) =
      some ((some name, value) :: members, rest)

lemma readsElements_succ (hvalues : ReadsValues steps) (helements : ReadsElements steps) :
    ReadsElements (steps + 1) := by
  intro level value values gap rest hspelled hgap hlength
  obtain ⟨hvalue, hrest⟩ := hspelled
  rw [List.length_append] at hlength
  have hfirst := hvalues (level + 1) value gap (indentedElements level values ++ rest) hvalue hgap
    (by have := indentedElements_pos level values; omega) (ended_indentedElements _ _ _)
  rw [readElements, hfirst]
  cases values with
  | nil =>
    have hend : skipGap (indentedElements level [] ++ rest) = ']' :: rest := by
      rw [indentedElements, List.append_assoc]
      exact skipGap_newline level rfl rest
    simp only [hend]
  | cons next values =>
    have hcomma : skipGap (indentedElements level (next :: values) ++ rest) =
        ',' :: (newline (level + 1) ++ (indented (level + 1) next ++
          (indentedElements level values ++ rest))) := by
      simp only [indentedElements, List.cons_append, List.append_assoc]
      exact skipGap_cons rfl _
    have hmore := helements level next values (newline (level + 1)) rest hrest
      (fun _ => isGap_of_mem_newline) (by
        simp only [indentedElements, List.length_cons, List.length_append] at hlength ⊢
        omega)
    simp only [hcomma, hmore, Option.map_some]

lemma readsMembers_succ (hvalues : ReadsValues steps) (hmembers : ReadsMembers steps) :
    ReadsMembers (steps + 1) := by
  intro level name value members gap rest hspelled hgap hlength
  obtain ⟨-, hvalue, hrest⟩ := hspelled
  rw [List.length_append, List.length_append] at hlength
  have hname := readString?_quote name (':' :: ' ' :: (indented (level + 1) value ++
    (indentedMembers level members ++ rest)))
  have hfirst := hvalues (level + 1) value [' '] (indentedMembers level members ++ rest) hvalue
    (by simp [isGap]) (by have := indentedMembers_pos level members; omega)
    (ended_indentedMembers _ _ _)
  have hquote (tail : List Char) :
      skipGap (gap ++ (quote name ++ tail)) =
        '"' :: (name.toList.flatMap escape ++ '"' :: tail) := by
    rw [skipGap_gap hgap, quote, List.cons_append, List.cons_append, List.append_assoc]
    exact skipGap_cons rfl _
  rw [readMembers, hquote]
  simp only [hname, skipGap_cons (show isGap ':' = false from rfl)]
  rw [List.singleton_append] at hfirst
  simp only [hfirst]
  cases members with
  | nil =>
    have hend : skipGap (indentedMembers level [] ++ rest) = '\x7d' :: rest := by
      rw [indentedMembers, List.append_assoc]
      exact skipGap_newline level rfl rest
    simp only [hend]
  | cons member members =>
    obtain ⟨next, value'⟩ := member
    obtain ⟨next, rfl⟩ := Option.isSome_iff_exists.mp hrest.1
    have hcomma : skipGap (indentedMembers level ((some next, value') :: members) ++ rest) =
        ',' :: (newline (level + 1) ++ (quote next ++ (':' :: ' ' ::
          (indented (level + 1) value' ++ (indentedMembers level members ++ rest))))) := by
      simp only [indentedMembers, quoteContent, Option.getD_some, List.cons_append,
        List.append_assoc]
      exact skipGap_cons rfl _
    have hmore := hmembers level next value' members (newline (level + 1)) rest hrest
      (fun _ => isGap_of_mem_newline) (by
        simp only [indentedMembers, quoteContent, Option.getD_some, List.length_cons,
          List.length_append] at hlength ⊢
        omega)
    simp only [hcomma, hmore, Option.map_some]

lemma readValue_string (hgap : ∀ c ∈ gap, isGap c = true) (s : String) :
    readValue (steps + 1) (gap ++ (indented level (.string (some s)) ++ rest)) =
      some (.string (some s), rest) := by
  have hread := readString?_quote s rest
  have htext : indented level (.string (some s)) ++ rest =
      '"' :: (s.toList.flatMap escape ++ '"' :: rest) := by
    simp [indented, quoteContent, quote]
  rw [readValue, skipGap_gap hgap, htext, skipGap_cons rfl]
  simp [hread]

lemma readValue_array (helements : ReadsElements steps) {values : List Json}
    (hspelled : WellSpelled (.array values)) (hgap : ∀ c ∈ gap, isGap c = true)
    (hlength : (indented level (.array values)).length ≤ steps + 1) :
    readValue (steps + 1) (gap ++ (indented level (.array values) ++ rest)) =
      some (.array values, rest) := by
  cases values with
  | nil =>
    have htext : indented level (.array []) ++ rest = '[' :: ']' :: rest := rfl
    rw [readValue, skipGap_gap hgap, htext, skipGap_cons rfl]
    simp [skipGap_cons (show isGap ']' = false from rfl)]
  | cons value values =>
    have hread := helements level value values [] rest hspelled (by simp) (by
      simp only [indented, List.length_cons, List.length_append] at hlength ⊢
      omega)
    obtain ⟨c, tail, hhead, hc, hend⟩ := indented_head (level + 1) hspelled.1
    have htext : indented level (.array (value :: values)) ++ rest =
        '[' :: (newline (level + 1) ++ (indented (level + 1) value ++
          (indentedElements level values ++ rest))) := by
      simp [indented]
    rw [hhead, List.nil_append, List.cons_append] at hread
    rw [readValue, skipGap_gap hgap, htext, skipGap_cons rfl, hhead, List.cons_append]
    simp [skipGap_newline _ hc, hend, hread]

lemma readValue_object (hmembers : ReadsMembers steps) {members : List (Option String × Json)}
    (hspelled : WellSpelled (.object members)) (hgap : ∀ c ∈ gap, isGap c = true)
    (hlength : (indented level (.object members)).length ≤ steps + 1) :
    readValue (steps + 1) (gap ++ (indented level (.object members) ++ rest)) =
      some (.object members, rest) := by
  cases members with
  | nil =>
    have htext : indented level (.object []) ++ rest = '\x7b' :: '\x7d' :: rest := rfl
    rw [readValue, skipGap_gap hgap, htext, skipGap_cons rfl]
    simp [skipGap_cons (show isGap '\x7d' = false from rfl)]
  | cons member members =>
    obtain ⟨name, value⟩ := member
    obtain ⟨name, rfl⟩ := Option.isSome_iff_exists.mp hspelled.1
    have hread := hmembers level name value members [] rest hspelled (by simp) (by
      simp only [indented, quoteContent, Option.getD_some, List.length_cons,
        List.length_append] at hlength ⊢
      omega)
    have htext : indented level (.object ((some name, value) :: members)) ++ rest =
        '\x7b' :: (newline (level + 1) ++ (quote name ++ (':' :: ' ' ::
          (indented (level + 1) value ++ (indentedMembers level members ++ rest))))) := by
      simp [indented, quoteContent]
    obtain ⟨tail, hquote⟩ : ∃ tail, quote name = '"' :: tail := ⟨_, rfl⟩
    rw [hquote, List.nil_append, List.cons_append] at hread
    rw [readValue, skipGap_gap hgap, htext, skipGap_cons rfl, hquote, List.cons_append]
    simp [skipGap_newline _ (show isGap '"' = false from rfl), hread]

lemma readsValues_succ (helements : ReadsElements steps) (hmembers : ReadsMembers steps) :
    ReadsValues (steps + 1) := by
  intro level value gap rest hspelled hgap hlength hrest
  cases value with
  | null =>
    have hword := readWord?_word "null".toList .null rest
    rw [readValue, skipGap_gap hgap]
    exact hword
  | bool value =>
    cases value with
    | true =>
      have hword := readWord?_word "true".toList (.bool true) rest
      rw [readValue, skipGap_gap hgap]
      exact hword
    | false =>
      have hword := readWord?_word "false".toList (.bool false) rest
      rw [readValue, skipGap_gap hgap]
      exact hword
  | number n => exact readValue_number hspelled hgap hrest
  | string content =>
    obtain ⟨s, rfl⟩ := Option.isSome_iff_exists.mp hspelled
    exact readValue_string hgap s
  | array values => exact readValue_array helements hspelled hgap hlength
  | object members => exact readValue_object hmembers hspelled hgap hlength

/-- What is printed is read back by a reader that is granted as many steps as the text has
characters. -/
theorem readValue_indented (steps : Nat) :
    ReadsValues steps ∧ ReadsElements steps ∧ ReadsMembers steps := by
  induction steps with
  | zero =>
    refine ⟨?_, ?_, ?_⟩
    · intro level value gap rest hspelled hgap hlength
      obtain ⟨c, tail, hhead, -⟩ := indented_head level hspelled
      simp [hhead] at hlength
    · intro level value values gap rest hspelled hgap hlength
      have := indentedElements_pos level values
      simp only [List.length_append] at hlength
      omega
    · intro level name value members gap rest hspelled hgap hlength
      have := indentedMembers_pos level members
      simp only [List.length_append] at hlength
      omega
  | succ steps ih =>
    obtain ⟨hvalues, helements, hmembers⟩ := ih
    exact ⟨readsValues_succ helements hmembers, readsElements_succ hvalues helements,
      readsMembers_succ hvalues hmembers⟩

/-- A value is the one that its text spells. -/
theorem parse?_indented {value : Json} (h : WellSpelled value) :
    parse? (indented 0 value) = some value := by
  have hread := (readValue_indented ((indented 0 value).length + 1)).1 0 value [] [] h (by simp)
    (by omega) ended_nil
  simp only [List.nil_append, List.append_nil] at hread
  rw [parse?, hread]
  rfl

end

end Macrostep.Json
