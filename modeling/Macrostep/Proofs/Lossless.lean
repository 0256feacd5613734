/-
# Stored values that come back

A type of stored values is lossless if every value is read back as it was put away, from JSON and
from octets (`Stored.Lossless`).  What is built from lossless types is lossless: lists, values that
may be missing, and records, which are read back from JSON by the names of their fields
(`Json.fields?_record`) and from octets by their order.
-/
import Macrostep.Proofs.BinaryRoundTrip
import Macrostep.Proofs.JsonRoundTrip
import Macrostep.Proofs.TimestampRoundTrip
import Macrostep.Stored

namespace Macrostep

open Binary Decimal Text

namespace Json

variable {T U : Type}

/-! ## Records by name -/

/-- A list is read element by element. -/
lemma mapM_eq_some {f : T → Option U} {g : T → U} {values : List T}
    (h : ∀ x ∈ values, f x = some (g x)) : values.mapM f = some (values.map g) := by
  induction values with
  | nil => rfl
  | cons x values ih =>
    rw [List.forall_mem_cons] at h
    simp [List.mapM_cons, h.1, ih h.2]

/-- Under a name that occurs once there is one member. -/
lemma filter_record {members : List (String × Json)} (hnames : (members.map Prod.fst).Nodup)
    {member : String × Json} (hmem : member ∈ members) :
    (members.map fun (name, value) => (some name, value)).filter
        (fun other => other.1 = some member.1) = [(some member.1, member.2)] := by
  induction members with
  | nil => cases hmem
  | cons first members ih =>
    rw [List.map_cons, List.nodup_cons] at hnames
    obtain ⟨hfirst, hnames⟩ := hnames
    rw [List.map_cons]
    rcases List.mem_cons.mp hmem with rfl | hmem
    · have hrest : (members.map fun (name, value) => (some name, value)).filter
          (fun other => other.1 = some member.1) = [] := by
        rw [List.filter_eq_nil_iff]
        rintro other hother hname
        obtain ⟨later, hlater, rfl⟩ := List.mem_map.mp hother
        have hsame : later.1 = member.1 := by simpa using hname
        exact hfirst (hsame ▸ List.mem_map_of_mem hlater)
      rw [List.filter_cons_of_pos (by simp), hrest]
    · have hother : first.1 ≠ member.1 := by
        rintro hsame
        exact hfirst (hsame ▸ List.mem_map_of_mem hmem)
      rw [List.filter_cons_of_neg (by simpa using hother)]
      exact ih hnames hmem

/-- A record whose fields have different names is read back field by field. -/
theorem fields?_record {members : List (String × Json)} (hnames : (members.map Prod.fst).Nodup) :
    (record members).fields? (members.map Prod.fst) =
      some (members.map fun member => some member.2) := by
  rw [record, fields?, members?, if_neg (by simp)]
  rw [List.mapM_map]
  refine mapM_eq_some fun member hmem => ?_
  simp only [Function.comp_apply, filter_record hnames hmem]

lemma wellSpelled_record {members : List (String × Json)} :
    (record members).WellSpelled ↔ ∀ member ∈ members, member.2.WellSpelled := by
  rw [record, WellSpelled, wellSpelledMembers_iff, List.forall_mem_map]
  simp

/-! ## Integers -/

lemma wellFormed_ofInt (i : Int) : WellFormed (.ofInt i) where
  digits _ hc := isDigit_of_mem_decimal hc
  some_digit := decimal_ne_nil _
  no_idle_zero := by
    intro hhead
    by_cases hzero : i.natAbs = 0
    · rw [Numeral.ofInt, hzero, decimal_zero]
    · exact absurd hhead (head?_decimal_ne hzero)
  places := nofun
  exponent := nofun

lemma toInt?_ofInt (i : Int) : (Numeral.ofInt i).toInt? = some i := by
  obtain ⟨size, hsize⟩ : ∃ size, i.natAbs = size := ⟨_, rfl⟩
  by_cases hneg : i < 0
  · have hne : size ≠ 0 := by omega
    have habs : -(size : Int) = i := by omega
    simp [Numeral.ofInt, Numeral.toInt?, hsize, hneg, hne, habs]
  · have habs : (size : Int) = i := by omega
    simp [Numeral.ofInt, Numeral.toInt?, hsize, hneg, habs]

lemma int?_int {low high i : Int} (hlow : low ≤ i) (hhigh : i ≤ high) :
    (int i).int? low high = some i := by
  simp [int, int?, toInt?_ofInt, hlow, hhigh]

/-- A value that may be missing is read back, unless it looks as if it were missing. -/
lemma maybe?_optional {write : T → Json} {read : Json → Option T} {value : Option T}
    (hnull : ∀ x, value = some x → write x ≠ .null)
    (hread : ∀ x, value = some x → read (write x) = some x) :
    maybe? read (some (optional write value)) = some value := by
  cases value with
  | none => rfl
  | some x =>
    have hne := hnull x rfl
    rw [optional, maybe?, hread x rfl]
    · rfl
    · exact hne

end Json

namespace Stored

/-! ## Lossless types -/

/-- Values whose JSON form is read back as the same JSON. -/
class Spelled (T : Type) [Stored T] : Prop where
  spelled (x : T) : (toJson x).WellSpelled

/-- Values that come back as they were put away. -/
class Lossless (T : Type) [Stored T] : Prop extends Spelled T where
  ofJson?_toJson (x : T) : ofJson? (toJson x) = some x
  reads (x : T) (h : (write x).length < UInt64.size) : Reads read (write x) x

/-- Values that take an octet at least.  The number of elements of a list is bounded by the octets
that are left, so only lists of such values are read back. -/
class NeverEmpty (T : Type) [Stored T] : Prop where
  write_ne_nil (x : T) : write x ≠ []

/-- Values that do not look as if they were missing. -/
class NeverNull (T : Type) [Stored T] : Prop where
  toJson_ne_null (x : T) : toJson x ≠ .null

export Spelled (spelled)
export Lossless (ofJson?_toJson reads)
export NeverEmpty (write_ne_nil)
export NeverNull (toJson_ne_null)

instance : Lossless String where
  spelled _ := rfl
  ofJson?_toJson _ := rfl
  reads _ h := reads_text h

instance : NeverEmpty String := ⟨writeText_ne_nil⟩

instance : NeverNull String := ⟨nofun⟩

instance : Lossless Int64 where
  spelled i := Json.wellFormed_ofInt i.toInt
  ofJson?_toJson i := by
    have hint := Json.int?_int (Int64.minValue_le_toInt i) (Int64.toInt_le i)
    simp only [toJson, ofJson?, hint, Option.map_some, Int64.ofInt_toInt]
  reads i _ rest := by
    have hread : readNat 8 (writeNat 8 i.toUInt64.toNat ++ rest) = some (i.toUInt64.toNat, rest) :=
      reads_nat i.toUInt64.toNat_lt rest
    simp only [write, read, hread, Option.map_some, UInt64.ofNat_toNat, Int64.toInt64_toUInt64]

instance : NeverNull Int64 := ⟨nofun⟩

instance : Lossless UInt32 where
  spelled n := Json.wellFormed_ofInt n.toNat
  ofJson?_toJson n := by
    have hlow : (0 : Int) ≤ n.toNat := by omega
    have hhigh : (n.toNat : Int) ≤ (UInt32.size - 1 : Nat) := by
      have := n.toNat_lt
      simp only [UInt32.size]
      omega
    simp only [toJson, ofJson?, Json.int?_int hlow hhigh, Option.map_some, Int.toNat_natCast,
      UInt32.ofNat_toNat]
  reads n _ rest := by
    have hread : readNat 4 (writeNat 4 n.toNat ++ rest) = some (n.toNat, rest) :=
      reads_nat n.toNat_lt rest
    simp only [write, read, hread, Option.map_some, UInt32.ofNat_toNat]

instance : Lossless Time.Timestamp where
  spelled _ := rfl
  ofJson?_toJson t := by
    simp [toJson, ofJson?, Json.text, Json.text?, Time.Timestamp.ofText?_text]
  reads t h rest := by
    have hread := reads_text h rest
    simp [write, read, hread, Time.Timestamp.ofText?_text]

section

variable {T : Type} [Stored T]

instance [Lossless T] [NeverEmpty T] : Lossless (List T) where
  spelled values := by
    refine (Json.wellSpelledElements_iff (values.map toJson)).mpr fun value hvalue => ?_
    obtain ⟨x, -, rfl⟩ := List.mem_map.mp hvalue
    exact spelled x
  ofJson?_toJson values := by
    have hread : values.mapM (ofJson? ∘ toJson) = some (values.map id) :=
      Json.mapM_eq_some fun x _ => ofJson?_toJson x
    rw [List.map_id] at hread
    simp only [toJson, ofJson?, Json.elements?, Option.bind_some, List.mapM_map]
    exact hread
  reads values h := by
    refine reads_list write_ne_nil (fun x hx => reads x ?_) h
    have hx : (write x).length ≤ (values.flatMap write).length := length_le_flatMap_of_mem hx
    have hall : (values.flatMap write).length ≤ (write values).length := by simp [write, writeList]
    omega

instance [Lossless T] [NeverNull T] : Lossless (Option T) where
  spelled value := by
    cases value with
    | none => trivial
    | some x => exact spelled x
  ofJson?_toJson value :=
    Json.maybe?_optional (fun x _ => toJson_ne_null x) (fun x _ => ofJson?_toJson x)
  reads value h := by
    refine reads_option fun x hx => reads x ?_
    subst hx
    exact Nat.lt_of_succ_lt h

/-- A type whose values are put away as values of a lossless type is lossless. -/
lemma Lossless.of_copy {U : Type} [Stored U] [Lossless T] (wrap : T → U) (unwrap : U → T)
    (hwrap : ∀ x, wrap (unwrap x) = x) (htoJson : ∀ x, toJson x = toJson (unwrap x))
    (hofJson : ∀ j, ofJson? j = (ofJson? j : Option T).map wrap)
    (hwrite : ∀ x, write x = write (unwrap x))
    (hread : ∀ os, read os = (read os : Option (T × Octets)).map fun (x, rest) => (wrap x, rest)) :
    Lossless U where
  spelled x := htoJson x ▸ spelled (unwrap x)
  ofJson?_toJson x := by rw [htoJson, hofJson, ofJson?_toJson, Option.map_some, hwrap]
  reads x h rest := by
    rw [hwrite] at h ⊢
    simp only [hread, reads (unwrap x) h _, Option.map_some, hwrap]

end

/-- Values that are stored under different names are lossless. -/
lemma Lossless.of_names {T : Type} [DecidableEq T] {values : List T} {name : T → String}
    (hall : ∀ x, x ∈ values) (hname : ∀ x y, name x = name y → x = y)
    (hcount : values.length < UInt32.size) : @Lossless T (.ofNames values name) := by
  let stored : Stored T := .ofNames values name
  have hjson (x : T) : ofJson? (toJson x) = some x := by
    change values.find? (fun value => name value = name x) = some x
    cases hfind : values.find? (fun value => name value = name x) with
    | none =>
      rw [List.find?_eq_none] at hfind
      exact absurd (decide_eq_true rfl) (hfind x (hall x))
    | some y =>
      have hy := List.find?_some hfind
      rw [hname y x (of_decide_eq_true hy)]
  have hreads (x : T) : Reads read (write x) x := by
    intro rest
    have hindex := List.idxOf_lt_length_of_mem (hall x)
    have hread : readNat 4 (writeNat 4 (values.idxOf x) ++ rest) = some (values.idxOf x, rest) :=
      reads_nat (show _ < Nat.pow 256 4 from Nat.lt_trans hindex hcount) rest
    change (readNat 4 (writeNat 4 (values.idxOf x) ++ rest)).bind _ = _
    rw [hread]
    simp [List.getElem?_eq_getElem hindex]
  exact
    { spelled := fun _ => rfl
      ofJson?_toJson := hjson
      reads := fun x _ => hreads x }

end Stored

end Macrostep
