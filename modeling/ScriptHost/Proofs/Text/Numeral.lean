import ScriptHost.Proofs.Text.Blank
import ScriptHost.Text.Numeral

/-!
# Canonical numerals

A numeral is canonical when it has no leading zero, that of zero apart. The canonical
numerals are exactly the written forms of the natural numbers, so that a text is the
canonical numeral of one number at most. Reading such a text as a 32-bit integer gives its
number, or nothing if it is too large (`int32?_repr`).
-/

namespace ScriptHost

namespace Numeral

/-! ### Digits -/

theorem isDigit_bounds {c : Char} (h : c.isDigit = true) : 48 ≤ c.toNat ∧ c.toNat ≤ 57 := by
  rw [Char.isDigit, Bool.and_eq_true, decide_eq_true_eq, decide_eq_true_eq] at h
  exact ⟨UInt32.le_iff_toNat_le.mp h.1, UInt32.le_iff_toNat_le.mp h.2⟩

/-- A digit is the written form of its value. -/
theorem digitChar_of_isDigit {c : Char} (h : c.isDigit = true) :
    Nat.digitChar (c.toNat - '0'.toNat) = c := by
  obtain ⟨h1, h2⟩ := isDigit_bounds h
  have h0 : '0'.toNat = 48 := rfl
  apply Char.toNat_inj.mp
  rw [h0, Nat.toNat_digitChar_of_lt_ten (by omega)]
  omega

/-- Digits behind the numeral of a positive number continue it. -/
theorem toDigits_append {n : Nat} (hn : 0 < n) {cs : List Char}
    (hcs : ∀ c ∈ cs, c.isDigit = true) :
    Nat.toDigits 10 n ++ cs = Nat.toDigits 10 (Nat.ofDigitChars 10 cs n) := by
  induction cs generalizing n with
  | nil => simp
  | cons c cs ih =>
    have hc : c.isDigit = true := hcs c List.mem_cons_self
    have hlt : c.toNat - '0'.toNat < 10 := by
      have := isDigit_bounds hc
      have h0 : '0'.toNat = 48 := rfl
      omega
    have hone : Nat.toDigits 10 n ++ [c] = Nat.toDigits 10 (10 * n + (c.toNat - '0'.toNat)) := by
      rw [← Nat.toDigits_append_toDigits (by decide) hn hlt, Nat.toDigits_of_lt_base hlt,
        digitChar_of_isDigit hc]
    rw [Nat.ofDigitChars_cons, ← ih (by omega) fun d hd => hcs d (List.mem_cons_of_mem _ hd),
      ← hone, List.append_assoc, List.singleton_append]

/-- A numeral without leading zero is the written form of the number it denotes. -/
theorem eq_toDigits_of_nat? {c : Char} {cs : List Char} {n : Nat} (hc : c ≠ '0')
    (h : nat? (c :: cs) = some n) : c :: cs = Nat.toDigits 10 n := by
  rw [nat?] at h
  split at h
  · next hds =>
    obtain ⟨-, hall⟩ := hds
    rw [List.all_eq_true] at hall
    have hd : c.isDigit = true := hall c List.mem_cons_self
    have hne : c.toNat ≠ 48 := fun he => hc (Char.toNat_inj.mp he)
    have h0 : '0'.toNat = 48 := rfl
    obtain ⟨h1, h2⟩ := isDigit_bounds hd
    have happ := toDigits_append (n := c.toNat - '0'.toNat) (by omega)
      fun d hd => hall d (List.mem_cons_of_mem _ hd)
    rw [Nat.toDigits_of_lt_base (by omega), digitChar_of_isDigit hd, List.singleton_append] at happ
    rw [Nat.ofDigitChars_cons, Nat.mul_zero, Nat.zero_add, Option.some.injEq] at h
    rw [happ, h]
  · cases h

/-- The written form of a positive number starts with another digit than zero. -/
theorem head_toDigits_ne_zero {n : Nat} (hn : n ≠ 0) {cs : List Char} :
    Nat.toDigits 10 n ≠ '0' :: cs := by
  induction n using Nat.strongRecOn generalizing cs with
  | ind n ih =>
    rw [Nat.toDigits_eq_if (by decide)]
    split
    · next hlt =>
      intro h
      have hd := congrArg Char.toNat (List.cons.inj h).1
      have h0 : '0'.toNat = 48 := rfl
      rw [Nat.toNat_digitChar_of_lt_ten hlt, h0] at hd
      omega
    · next hge =>
      intro h
      cases hd : Nat.toDigits 10 (n / 10) with
      | nil => exact Nat.toDigits_ne_nil hd
      | cons d ds =>
        rw [hd, List.cons_append] at h
        exact ih (n / 10) (by omega) (by omega) (hd.trans (by rw [(List.cons.inj h).1]))

/-! ### Reading a plain numeral -/

theorem isBlank_of_isDigit {c : Char} (h : c.isDigit = true) : Text.isBlank c = false := by
  obtain ⟨h1, h2⟩ := isDigit_bounds h
  simp only [Text.isBlank, Bool.or_eq_false_iff, Bool.and_eq_false_iff, decide_eq_false_iff_not,
    beq_eq_false_iff_ne]
  omega

theorem isDigit_of_mem_toDigits {n : Nat} {c : Char} (hc : c ∈ Nat.toDigits 10 n) :
    c.isDigit = true :=
  Nat.isDigit_of_mem_toDigits (by decide) (by decide) hc

/-- Digits without sign are read as a natural number. -/
theorem int?_of_digits {cs : List Char} (hdigits : ∀ c ∈ cs, c.isDigit = true) :
    int? cs = (nat? cs).map Int.ofNat := by
  unfold int?
  split
  · exact absurd (hdigits '-' List.mem_cons_self) (by decide)
  · exact absurd (hdigits '+' List.mem_cons_self) (by decide)
  · rfl

/-- A numeral without sign is read as one. -/
theorem int?_toDigits (n : Nat) : int? (Nat.toDigits 10 n) = some (n : Int) := by
  rw [int?_of_digits fun c => isDigit_of_mem_toDigits, nat?_toDigits]
  rfl

/-- The plain numeral of a natural number is read as that number, where 32 bits hold it. -/
theorem int32?_repr (n : Nat) : int32? n.repr = narrow32? n := by
  have hblank : ∀ c ∈ Nat.toDigits 10 n, Text.isBlank c = false := fun c hc =>
    isBlank_of_isDigit (isDigit_of_mem_toDigits hc)
  rw [int32?, Nat.toList_repr, Text.trim_of_forall hblank, int?_toDigits, Option.bind_some]

/-- The natural numbers that 32 bits hold are those below two to the power of 31. -/
theorem narrow32?_natCast (n : Nat) :
    narrow32? n = if n < 2147483648 then some (Int32.ofInt n) else none := by
  have hmin : Int32.minValue.toInt = -2147483648 := rfl
  have hmax : Int32.maxValue.toInt = 2147483647 := rfl
  rw [narrow32?, hmin, hmax]
  by_cases hn : n < 2147483648
  · rw [if_pos hn, if_pos (by omega)]
  · rw [if_neg hn, if_neg (by omega)]

end Numeral

end ScriptHost
