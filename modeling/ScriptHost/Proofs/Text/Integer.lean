import Mathlib.Data.List.Induction
import Mathlib.Data.Nat.Digits.Defs
import ScriptHost.Proofs.Text.Numeral

/-!
# The integer of a text

An integer numeral is an optional sign and decimal digits, and what it denotes is told by the
places of the digits (`Denotes`). A text expresses an integer if its core denotes it (`Expresses`).

## What is proved

* Reading gives the integer that is denoted, and nothing if there is none (`int?_eq_some_iff`).
* A machine word reads just the integers that it has (`Word.read_eq_some_iff`).
* An integer is expressed by its text, with blanks around it, a plus sign in front if it is not
  negative, and zeros before the digits (`Spelling.denotes`, `Denotes.expresses`).
-/

namespace ScriptHost.Numeral

variable {cs ds : List Char} {n : Int}

/-! ### Digits -/

/-- The number that a digit stands for. -/
def digitValue (c : Char) : Nat := c.toNat - '0'.toNat

/-- The number that digits stand for by their places, the last place being that of the units. -/
def placeValue (ds : List Char) : Nat := Nat.ofDigits 10 (ds.reverse.map digitValue)

theorem placeValue_concat (ds : List Char) (c : Char) :
    placeValue (ds ++ [c]) = 10 * placeValue ds + digitValue c := by
  rw [placeValue, List.reverse_append, List.reverse_singleton, List.singleton_append, List.map_cons,
    Nat.ofDigits_cons, Nat.add_comm]
  rfl

/-- Zeros in front do not count. -/
theorem placeValue_zeros (k : Nat) (ds : List Char) :
    placeValue (List.replicate k '0' ++ ds) = placeValue ds := by
  have hzero : digitValue '0' = 0 := rfl
  rw [placeValue, List.reverse_append, List.reverse_replicate, List.map_append, List.map_replicate,
    hzero, Nat.ofDigits_append_replicate_zero]
  rfl

/-- Reading from the left comes to the same as adding up the places. -/
theorem ofDigitChars_eq_placeValue (ds : List Char) :
    Nat.ofDigitChars 10 ds 0 = placeValue ds := by
  induction ds using List.reverseRecOn with
  | nil => rfl
  | append_singleton ds c ih =>
    rw [Nat.ofDigitChars_append, ih, placeValue_concat]
    rfl

/-- One or more of the ten ASCII digits. -/
structure Digits (ds : List Char) : Prop where
  ne_nil : ds ≠ []
  digits : ∀ c ∈ ds, c.isDigit = true

theorem nat?_eq_some_iff {n : Nat} : nat? ds = some n ↔ Digits ds ∧ placeValue ds = n := by
  rw [nat?, ofDigitChars_eq_placeValue]
  constructor
  · intro h
    split at h
    · next hds => exact ⟨⟨hds.1, List.all_eq_true.mp hds.2⟩, Option.some.inj h⟩
    · cases h
  · rintro ⟨⟨hne, hdigits⟩, rfl⟩
    rw [if_pos ⟨hne, List.all_eq_true.mpr hdigits⟩]

theorem Digits.zeros (run : Digits ds) (k : Nat) : Digits (List.replicate k '0' ++ ds) := by
  refine ⟨List.append_ne_nil_of_right_ne_nil _ run.ne_nil, fun c hc => ?_⟩
  rcases List.mem_append.mp hc with hzero | hdigit
  · rw [List.eq_of_mem_replicate hzero]
    rfl
  · exact run.digits c hdigit

/-! ### Integers -/

/-- **The integer that a numeral denotes**: an optional sign, and digits behind it. -/
inductive Denotes : List Char → Int → Prop where
  | unsigned {ds : List Char} (run : Digits ds) : Denotes ds (placeValue ds)
  | plus {ds : List Char} (run : Digits ds) : Denotes ('+' :: ds) (placeValue ds)
  | minus {ds : List Char} (run : Digits ds) : Denotes ('-' :: ds) (-(placeValue ds : Int))

theorem nat?_of_digits (run : Digits ds) : nat? ds = some (placeValue ds) :=
  nat?_eq_some_iff.mpr ⟨run, rfl⟩

theorem int?_minus (ds : List Char) :
    int? ('-' :: ds) = (nat? ds).map fun m : Nat => -(m : Int) := by
  rw [int?]
  cases nat? ds <;> rfl

/-- **Reading gives what is denoted**, and nothing if nothing is. -/
theorem int?_eq_some_iff : int? cs = some n ↔ Denotes cs n := by
  constructor
  · intro h
    unfold int? at h
    split at h
    · next ds =>
      obtain ⟨m, hm, rfl⟩ := Option.map_eq_some_iff.mp ((int?_minus ds).symm.trans h)
      obtain ⟨run, rfl⟩ := nat?_eq_some_iff.mp hm
      exact .minus run
    · obtain ⟨m, hm, rfl⟩ := Option.map_eq_some_iff.mp h
      obtain ⟨run, rfl⟩ := nat?_eq_some_iff.mp hm
      exact .plus run
    · obtain ⟨m, hm, rfl⟩ := Option.map_eq_some_iff.mp h
      obtain ⟨run, rfl⟩ := nat?_eq_some_iff.mp hm
      exact .unsigned run
  · intro h
    cases h with
    | unsigned run =>
      rw [int?_of_digits run.digits, nat?_of_digits run]
      rfl
    | plus run =>
      rw [int?, nat?_of_digits run]
      rfl
    | minus run =>
      rw [int?_minus, nat?_of_digits run]
      rfl

/-- No character of a numeral is blank, so that a numeral is its own core. -/
theorem Denotes.not_blank (h : Denotes cs n) : ∀ c ∈ cs, Text.isBlank c = false := by
  cases h with
  | unsigned run => exact fun c hc => isBlank_of_isDigit (run.digits c hc)
  | plus run | minus run =>
    intro c hc
    rcases List.mem_cons.mp hc with rfl | hc
    · decide
    · exact isBlank_of_isDigit (run.digits c hc)

/-- **A text expresses an integer** if its core is a numeral that denotes it. -/
def Expresses (text : String) (n : Int) : Prop :=
  ∃ core, Text.Core text.toList core ∧ Denotes core n

theorem expresses_iff {text : String} : Expresses text n ↔ Denotes (Text.trim text.toList) n := by
  constructor
  · rintro ⟨core, hcore, h⟩
    rwa [hcore.trim_eq]
  · exact fun h => ⟨_, Text.core_trim _, h⟩

theorem Denotes.expresses {s w₁ w₂ : String} (h : Denotes s.toList n)
    (hw₁ : Text.Blanks w₁.toList) (hw₂ : Text.Blanks w₂.toList) : Expresses (w₁ ++ s ++ w₂) n := by
  refine ⟨s.toList, ?_, h⟩
  rw [String.toList_append, String.toList_append]
  exact Text.core_append h.not_blank hw₁ hw₂

/-! ### Words -/

/-- **The integers of a machine word**: those from `lo` to `hi`. -/
structure Word {I : Type} (toInt : I → Int) (ofInt : Int → I) (lo hi : Int) : Prop where
  bounds : ∀ x, lo ≤ toInt x ∧ toInt x ≤ hi
  toInt_ofInt : ∀ m, lo ≤ m → m ≤ hi → toInt (ofInt m) = m
  ofInt_toInt : ∀ x, ofInt (toInt x) = x

theorem word32 : Word Int32.toInt Int32.ofInt (-2147483648) 2147483647 where
  bounds x := ⟨x.minValue_le_toInt, x.toInt_le⟩
  toInt_ofInt _ hlo hhi := Int32.toInt_ofInt_of_le hlo (Int.lt_add_one_of_le hhi)
  ofInt_toInt := Int32.ofInt_toInt

theorem word64 : Word Int64.toInt Int64.ofInt (-9223372036854775808) 9223372036854775807 where
  bounds x := ⟨x.minValue_le_toInt, x.toInt_le⟩
  toInt_ofInt _ hlo hhi := Int64.toInt_ofInt_of_le hlo (Int.lt_add_one_of_le hhi)
  ofInt_toInt := Int64.ofInt_toInt

namespace Word

variable {I : Type} {toInt : I → Int} {ofInt : Int → I} {lo hi m : Int} {x : I}

theorem exists_iff (word : Word toInt ofInt lo hi) : (∃ x, toInt x = m) ↔ lo ≤ m ∧ m ≤ hi := by
  constructor
  · rintro ⟨x, rfl⟩
    exact word.bounds x
  · rintro ⟨hlo, hhi⟩
    exact ⟨ofInt m, word.toInt_ofInt m hlo hhi⟩

/-- What is narrowed keeps its value, or there is nothing. -/
theorem narrow_eq_some_iff (word : Word toInt ofInt lo hi) :
    (if lo ≤ m ∧ m ≤ hi then some (ofInt m) else none) = some x ↔ toInt x = m := by
  constructor
  · intro h
    split at h
    · next hm =>
      cases h
      exact word.toInt_ofInt m hm.1 hm.2
    · cases h
  · rintro rfl
    rw [if_pos (word.bounds x), word.ofInt_toInt]

/-- **A text is read as the integer that it expresses**, where the word has it. -/
theorem read_eq_some_iff (word : Word toInt ofInt lo hi) {text : String} :
    ((int? (Text.trim text.toList)).bind fun m =>
      if lo ≤ m ∧ m ≤ hi then some (ofInt m) else none) = some x ↔ Expresses text (toInt x) := by
  rw [Option.bind_eq_some_iff, expresses_iff]
  constructor
  · rintro ⟨m, hm, hx⟩
    rw [word.narrow_eq_some_iff.mp hx]
    exact int?_eq_some_iff.mp hm
  · intro h
    exact ⟨toInt x, int?_eq_some_iff.mpr h, word.narrow_eq_some_iff.mpr rfl⟩

end Word

theorem int32?_eq_some_iff {text : String} {x : Int32} :
    int32? text = some x ↔ Expresses text x.toInt :=
  word32.read_eq_some_iff

theorem int64?_eq_some_iff {text : String} {x : Int64} :
    int64? text = some x ↔ Expresses text x.toInt :=
  word64.read_eq_some_iff

/-! ### Spellings -/

/-- A numeral with zeros put before its digits, behind the sign if there is one. -/
def padded (k : Nat) : List Char → List Char
  | '-' :: ds => '-' :: (List.replicate k '0' ++ ds)
  | '+' :: ds => '+' :: (List.replicate k '0' ++ ds)
  | ds => List.replicate k '0' ++ ds

theorem padded_of_digits (run : Digits ds) (k : Nat) :
    padded k ds = List.replicate k '0' ++ ds := by
  unfold padded
  split
  · exact absurd (run.digits '-' List.mem_cons_self) (by decide)
  · exact absurd (run.digits '+' List.mem_cons_self) (by decide)
  · rfl

theorem Denotes.padded (h : Denotes cs n) (k : Nat) : Denotes (padded k cs) n := by
  cases h with
  | unsigned run =>
    rw [padded_of_digits run, ← placeValue_zeros k]
    exact .unsigned (run.zeros k)
  | @plus ds run =>
    rw [← placeValue_zeros k ds]
    exact .plus (run.zeros k)
  | @minus ds run =>
    rw [← placeValue_zeros k ds]
    exact .minus (run.zeros k)

/-- **How an integer may be spelt** that is written as a text. -/
inductive Spelling (n : Int) (text : String) : String → Prop where
  /-- As it is written. -/
  | written : Spelling n text text
  /-- With a plus sign in front, where it is not negative. -/
  | plus (nonneg : 0 ≤ n) : Spelling n text ("+" ++ text)
  /-- With zeros before the digits. -/
  | zeros (k : Nat) {s : String} (spelling : Spelling n text s) :
      Spelling n text (String.ofList (padded k s.toList))

theorem digits_toDigits (n : Nat) :
    Digits (Nat.toDigits 10 n) ∧ placeValue (Nat.toDigits 10 n) = n :=
  nat?_eq_some_iff.mp (nat?_toDigits n)

/-- An integer is written as what denotes it. -/
theorem denotes_repr (n : Int) : Denotes n.repr.toList n := by
  rw [Int.repr_eq_if]
  split
  · next hn =>
    obtain ⟨run, hvalue⟩ := digits_toDigits n.toNat
    have h := Denotes.unsigned run
    rwa [hvalue, Int.toNat_of_nonneg hn, ← Nat.toList_repr] at h
  · next hn =>
    obtain ⟨run, hvalue⟩ := digits_toDigits (-n).toNat
    have h := Denotes.minus run
    rw [hvalue, Int.toNat_of_nonneg (by omega), Int.neg_neg, ← Nat.toList_repr] at h
    rwa [String.toList_append]

/-- **Every spelling of an integer denotes it.** By induction on the spelling, for zeros may be put
before the digits of any other one. -/
theorem Spelling.denotes {s : String} (h : Spelling n n.repr s) : Denotes s.toList n := by
  induction h with
  | written => exact denotes_repr n
  | plus hn =>
    obtain ⟨run, hvalue⟩ := digits_toDigits n.toNat
    have h := Denotes.plus run
    rw [hvalue, Int.toNat_of_nonneg hn, ← Nat.toList_repr] at h
    rwa [Int.repr_eq_if, if_pos hn, String.toList_append]
  | zeros k _ ih =>
    rw [String.toList_ofList]
    exact ih.padded k

end ScriptHost.Numeral
