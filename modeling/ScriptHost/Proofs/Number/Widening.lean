import Mathlib.Algebra.Field.Rat
import Mathlib.Algebra.GroupWithZero.Basic
import Mathlib.Algebra.Order.Ring.Nat
import Mathlib.Tactic.NormNum
import Mathlib.Tactic.Ring
import ScriptHost.Number.Binary

/-!
# Widening floats

A 32-bit float read as a 64-bit one keeps its value and its sign (`convert_widens`), and
is finite exactly if it was (`isFinite_convert`). The reason is that rounding a value that
the wider format has loses nothing (`nearest_scaled`): the one quotient that is rounded
comes out whole. An integer can lose digits when it becomes a float, but none of one word is too
large for a 64-bit one (`isFinite_ofInt`).
-/

namespace ScriptHost

/-! ### Rounding what is exact -/

theorem roundHalfEven_mul (q : Nat) {d : Nat} (hd : 0 < d) : roundHalfEven (q * d) d = q := by
  simp [roundHalfEven, Nat.mul_div_cancel _ hd, hd]

theorem log2_mul_two_pow {s : Nat} (hs : s ≠ 0) (k : Nat) : (s * 2 ^ k).log2 = s.log2 + k := by
  have hpos : 0 < 2 ^ k := Nat.two_pow_pos k
  have hne : s * 2 ^ k ≠ 0 := Nat.mul_ne_zero hs hpos.ne'
  rw [Nat.log2_eq_iff hne]
  constructor
  · rw [Nat.pow_add]
    exact Nat.mul_le_mul_right _ (Nat.log2_self_le hs)
  · rw [show s.log2 + k + 1 = s.log2 + 1 + k by omega, Nat.pow_add]
    exact Nat.mul_lt_mul_of_pos_right Nat.lt_log2_self hpos

/-- A number moved up to `w + 1` bits. -/
theorem bounds_mul_two_pow {s w : Nat} (hs : s ≠ 0) (hw : s.log2 ≤ w) :
    2 ^ w ≤ s * 2 ^ (w - s.log2) ∧ s * 2 ^ (w - s.log2) < 2 ^ (w + 1) := by
  constructor
  · have hsplit : 2 ^ w = 2 ^ s.log2 * 2 ^ (w - s.log2) := by
      rw [← Nat.pow_add]
      congr 1
      omega
    rw [hsplit]
    exact Nat.mul_le_mul_right _ (Nat.log2_self_le hs)
  · have hsplit : 2 ^ (w + 1) = 2 ^ (s.log2 + 1) * 2 ^ (w - s.log2) := by
      rw [← Nat.pow_add]
      congr 1
      omega
    rw [hsplit]
    exact Nat.mul_lt_mul_of_pos_right Nat.lt_log2_self (Nat.two_pow_pos _)

/-- The exponent of `s * 2 ^ e`, written as a quotient, is that of `s` moved by `e`. -/
theorem floorLog2_scaled {s : Nat} (hs : s ≠ 0) (e : Int) :
    floorLog2 (s * 2 ^ e.toNat) (2 ^ (-e).toNat) = s.log2 + e := by
  have hk : (((s * 2 ^ e.toNat).log2 : Nat) : Int) - ((2 ^ (-e).toNat).log2 : Nat) =
      s.log2 + e := by
    rw [log2_mul_two_pow hs, Nat.log2_two_pow]
    omega
  have hle : 2 ^ (-e).toNat * 2 ^ ((s.log2 : Int) + e).toNat ≤
      s * 2 ^ e.toNat * 2 ^ (-((s.log2 : Int) + e)).toNat := by
    rw [Nat.mul_assoc, ← Nat.pow_add, ← Nat.pow_add]
    have hexp : (-e).toNat + ((s.log2 : Int) + e).toNat =
        s.log2 + (e.toNat + (-((s.log2 : Int) + e)).toNat) := by omega
    rw [hexp, Nat.pow_add]
    exact Nat.mul_le_mul_right _ (Nat.log2_self_le hs)
  simp only [floorLog2, hk]
  rw [if_pos hle]

namespace Format

/-- **Rounding is exact** on what the format has: a significand of no more bits than the
format keeps, scaled within the range of its normal numbers. -/
theorem nearest_scaled (f : Format) {s : Nat} {e : Int} (hs : s ≠ 0)
    (hbits : s.log2 ≤ f.fractionBits) (hlow : f.minExponent ≤ s.log2 + e - f.fractionBits) :
    f.nearest (s * 2 ^ e.toNat) (2 ^ (-e).toNat) =
      min f.infinity ((s.log2 + e - f.fractionBits - f.minExponent).toNat * 2 ^ f.fractionBits +
        s * 2 ^ (f.fractionBits - s.log2)) := by
  have hne : s * 2 ^ e.toNat ≠ 0 := Nat.mul_ne_zero hs (Nat.two_pow_pos _).ne'
  unfold nearest
  rw [if_neg hne, floorLog2_scaled hs, max_eq_left hlow]
  generalize he' : (s.log2 : Int) + e - f.fractionBits = e'
  -- both sides of the quotient are multiples of the denominator
  have hnum : s * 2 ^ e.toNat * 2 ^ (-e').toNat =
      s * 2 ^ (f.fractionBits - s.log2) * (2 ^ (-e).toNat * 2 ^ e'.toNat) := by
    rw [Nat.mul_assoc, Nat.mul_assoc, ← Nat.pow_add, ← Nat.pow_add, ← Nat.pow_add]
    congr 2
    omega
  dsimp only
  rw [hnum, roundHalfEven_mul _ (Nat.mul_pos (Nat.two_pow_pos _) (Nat.two_pow_pos _))]

end Format

namespace Binary

variable {f : Format}

/-! ### Sign and magnitude -/

theorem toNat_ofMagnitude (negative : Bool) {m : Nat} (hm : m < 2 ^ f.magnitudeBits) :
    (ofMagnitude f negative m).bits.toNat =
      if negative then 2 ^ f.magnitudeBits + m else m := by
  have hw : 2 ^ f.width = 2 * 2 ^ f.magnitudeBits := by rw [Format.width, Nat.pow_succ']
  rw [ofMagnitude, BitVec.toNat_ofNat, hw]
  apply Nat.mod_eq_of_lt
  split <;> omega

theorem magnitude_ofMagnitude (negative : Bool) {m : Nat} (hm : m < 2 ^ f.magnitudeBits) :
    (ofMagnitude f negative m).magnitude = m := by
  rw [magnitude, toNat_ofMagnitude negative hm]
  cases negative with
  | true => simp [Nat.mod_eq_of_lt hm]
  | false => exact Nat.mod_eq_of_lt hm

theorem isNegative_ofMagnitude (negative : Bool) {m : Nat} (hm : m < 2 ^ f.magnitudeBits) :
    (ofMagnitude f negative m).isNegative = negative := by
  rw [isNegative, toNat_ofMagnitude negative hm]
  cases negative with
  | true => simp
  | false => simpa using hm

/-! ### Values -/

/-- The rational that a finite number stands for. -/
def toRat (x : Binary f) : ℚ :=
  (if x.isNegative then -1 else 1) * (x.significand * 2 ^ x.exponent)

/-- Two numbers, of formats that may differ, that stand for the same value, with the same
sign also where the value is zero. -/
def SameValue {g : Format} (x : Binary f) (y : Binary g) : Prop :=
  x.isNegative = y.isNegative ∧ x.toRat = y.toRat

theorem significand_lt (x : Binary f) : x.significand < 2 ^ (f.fractionBits + 1) := by
  have hlt : x.fraction < 2 ^ f.fractionBits := Nat.mod_lt _ (Nat.two_pow_pos _)
  rw [significand, Nat.pow_succ]
  split <;> omega

theorem exponentField_lt {x : Binary f} (hx : x.isFinite = true) :
    x.exponentField < 2 ^ f.exponentBits - 1 := by
  have hlt : x.magnitude < f.infinity := of_decide_eq_true hx
  exact Nat.div_lt_of_lt_mul (Nat.mul_comm _ _ ▸ hlt)

/-- A normal number has the significand and the exponent that its magnitude was made of. -/
theorem significand_exponent_of_normal {x : Binary f} {e s : Nat} (lo : 2 ^ f.fractionBits ≤ s)
    (hi : s < 2 ^ (f.fractionBits + 1)) (hx : x.magnitude = e * 2 ^ f.fractionBits + s) :
    x.significand = s ∧ x.exponent = f.minExponent + e := by
  have hpos : 0 < 2 ^ f.fractionBits := Nat.two_pow_pos _
  have hsplit : x.magnitude = (s - 2 ^ f.fractionBits) + (e + 1) * 2 ^ f.fractionBits := by
    rw [hx, Nat.succ_mul]
    omega
  have hlt : s - 2 ^ f.fractionBits < 2 ^ f.fractionBits := by
    rw [Nat.pow_succ] at hi
    omega
  have hfield : x.exponentField = e + 1 := by
    rw [exponentField, hsplit, Nat.add_mul_div_right _ _ hpos, Nat.div_eq_of_lt hlt, Nat.zero_add]
  have hfraction : x.fraction = s - 2 ^ f.fractionBits := by
    rw [fraction, hsplit, Nat.add_mul_mod_self_right, Nat.mod_eq_of_lt hlt]
  constructor
  · rw [significand, hfield, hfraction, if_neg (Nat.succ_ne_zero e)]
    omega
  · rw [exponent, hfield, Nat.add_sub_cancel]

/-! ### From 32 to 64 bits -/

theorem exponent_bounds {x : Float32Bits} (hx : x.isFinite = true) :
    -149 ≤ x.exponent ∧ x.exponent ≤ 104 := by
  have hlt : x.exponentField < 255 := exponentField_lt hx
  have hmin : Format.binary32.minExponent = -149 := rfl
  rw [exponent, hmin]
  omega

theorem convert_of_isFinite {g : Format} {x : Binary f} (hx : x.isFinite = true) :
    x.convert g = ofMagnitude g x.isNegative (g.nearest x.ratio.1 x.ratio.2) := by
  have hnan : x.isNaN = false := by
    have hlt : x.magnitude < f.infinity := of_decide_eq_true hx
    exact decide_eq_false (Nat.lt_asymm hlt)
  simp only [convert, hnan, hx, if_true, Bool.false_eq_true, if_false, ofRatio]

/-- The magnitude of a nonzero 32-bit float as a 64-bit one: the significand moved up to
the full width, and the exponent that belongs to it. -/
theorem nearest_ratio {x : Float32Bits} (hx : x.isFinite = true) (hs : x.significand ≠ 0) :
    ∃ e s : Nat, Format.nearest .binary64 x.ratio.1 x.ratio.2 = e * 2 ^ 52 + s ∧ e < 2000 ∧
      2 ^ 52 ≤ s ∧ s < 2 ^ 53 ∧
      (s : ℚ) * 2 ^ ((-1074 : Int) + e) = x.significand * 2 ^ x.exponent := by
  obtain ⟨hlo, hhi⟩ := exponent_bounds hx
  have hlog : x.significand.log2 < 24 := (Nat.log2_lt hs).mpr x.significand_lt
  have hfb : Format.binary64.fractionBits = 52 := rfl
  have hmin : Format.binary64.minExponent = -1074 := rfl
  have hnearest := Format.nearest_scaled .binary64 (e := x.exponent) hs (by omega) (by omega)
  rw [hfb, hmin] at hnearest
  obtain ⟨hge, hlt⟩ := bounds_mul_two_pow (w := 52) hs (by omega)
  generalize x.significand.log2 = L at *
  obtain ⟨e, he⟩ : ∃ e : Nat, (L : Int) + x.exponent - 52 + 1074 = e :=
    ⟨((L : Int) + x.exponent - 52 + 1074).toNat, by omega⟩
  refine ⟨e, x.significand * 2 ^ (52 - L), ?_, by omega, hge, hlt, ?_⟩
  · rw [ratio, hnearest]
    have hinf : Format.binary64.infinity = 2047 * 2 ^ 52 := rfl
    have hfit : e * 2 ^ 52 + x.significand * 2 ^ (52 - L) ≤ 2047 * 2 ^ 52 := by omega
    have hexp : ((L : Int) + x.exponent - (52 : Nat) - -1074).toNat = e := by omega
    rw [hinf, hexp, min_eq_right hfit]
  · have hexp : x.exponent = ((52 - L : Nat) : Int) + (-1074 + e) := by omega
    rw [hexp, zpow_add₀ two_ne_zero ((52 - L : Nat) : Int), zpow_natCast, Nat.cast_mul, mul_assoc,
      Nat.cast_pow, Nat.cast_ofNat]

/-- **A finite 32-bit float** is a 64-bit float of the same value and sign. -/
theorem convert_widens {x : Float32Bits} (hx : x.isFinite = true) :
    (x.convert .binary64).isFinite = true ∧ x.SameValue (x.convert .binary64) := by
  rw [convert_of_isFinite hx]
  by_cases hs : x.significand = 0
  · have hzero : Format.nearest .binary64 x.ratio.1 x.ratio.2 = 0 := by
      simp [ratio, hs, Format.nearest]
    have hm := magnitude_ofMagnitude (f := .binary64) x.isNegative (m := 0) (by decide)
    have hsig : (ofMagnitude .binary64 x.isNegative 0).significand = 0 := by
      rw [significand, exponentField, fraction, hm]
      rfl
    rw [hzero]
    refine ⟨by rw [isFinite, hm]; decide, (isNegative_ofMagnitude _ (by decide)).symm, ?_⟩
    rw [toRat, toRat, hs, hsig]
    simp
  · obtain ⟨e, s, hnear, he, hlo, hhi, hvalue⟩ := nearest_ratio hx hs
    have hbits : (2 : Nat) ^ Format.binary64.magnitudeBits = 2 ^ 63 := rfl
    have hm : e * 2 ^ 52 + s < 2 ^ Format.binary64.magnitudeBits := by
      rw [hbits]
      omega
    rw [hnear]
    have hmag := magnitude_ofMagnitude x.isNegative hm
    have hneg := isNegative_ofMagnitude x.isNegative hm
    obtain ⟨hsig, hexp⟩ := significand_exponent_of_normal (f := .binary64) hlo hhi hmag
    refine ⟨decide_eq_true ?_, hneg.symm, ?_⟩
    · rw [hmag]
      have hinf : Format.binary64.infinity = 2047 * 2 ^ 52 := rfl
      omega
    · rw [toRat, toRat, hneg, hsig, hexp]
      congr 1
      exact hvalue.symm

/-- Infinities and NaNs stay what they are, and nothing finite becomes one. -/
theorem isFinite_convert (x : Float32Bits) : (x.convert .binary64).isFinite = x.isFinite := by
  cases hx : x.isFinite with
  | true => exact (convert_widens hx).1
  | false =>
    rw [convert, hx, if_neg Bool.false_ne_true]
    split
    · decide
    · cases x.isNegative <;> decide

/-! ### From large integers -/

theorem roundHalfEven_le (num den : Nat) : roundHalfEven num den ≤ num / den + 1 := by
  unfold roundHalfEven
  dsimp only
  split
  · exact Nat.le_succ _
  · split
    · exact Nat.le_refl _
    · exact Nat.add_le_add_left (Nat.le_of_lt_succ (Nat.mod_lt _ Nat.two_pos)) _

/-- An integer that needs all bits of an unsigned word is far from the largest finite float. -/
theorem isFinite_ofInt {n : Int} (lo : 2 ^ 63 ≤ n) (hi : n < 2 ^ 64) :
    (ofInt .binary64 n).isFinite = true := by
  obtain ⟨m, rfl⟩ := Int.eq_ofNat_of_zero_le (Int.le_trans (by decide) lo)
  have hlo : 2 ^ 63 ≤ m := by omega
  have hhi : m < 2 ^ 64 := by omega
  have hne : m ≠ 0 := by omega
  have hlog : m.log2 = 63 := (Nat.log2_eq_iff hne).mpr ⟨hlo, hhi⟩
  have hfloor : floorLog2 m 1 = 63 := by
    have hone : Nat.log2 1 = 0 := rfl
    simp only [floorLog2, hlog, hone]
    rw [if_pos]
    · rfl
    · show 1 * 2 ^ 63 ≤ m * 2 ^ 0
      omega
  have hround := roundHalfEven_le (m * 2 ^ 0) (1 * 2 ^ 11)
  have hinf : Format.binary64.infinity = 2047 * 2 ^ 52 := rfl
  have hnearest : Format.nearest .binary64 m 1 ≤ 1085 * 2 ^ 52 + 2 ^ 53 := by
    unfold Format.nearest
    rw [if_neg hne, hfloor]
    have hexp : max ((63 : Int) - Format.binary64.fractionBits) Format.binary64.minExponent = 11 :=
      rfl
    have hfrac : Format.binary64.fractionBits = 52 := rfl
    have hmin : Format.binary64.minExponent = -1074 := rfl
    rw [hexp, hinf, hfrac, hmin]
    show min (2047 * 2 ^ 52) (1085 * 2 ^ 52 + roundHalfEven (m * 2 ^ 0) (1 * 2 ^ 11)) ≤ _
    refine Nat.le_trans (Nat.min_le_right _ _) ?_
    omega
  have hbits : (2 : Nat) ^ Format.binary64.magnitudeBits = 2 ^ 63 := rfl
  have hmag := magnitude_ofMagnitude (f := .binary64) (decide ((m : Int) < 0))
    (m := Format.nearest .binary64 m 1) (by omega)
  refine decide_eq_true ?_
  rw [ofInt, ofRatio, Int.natAbs_natCast, hmag, hinf]
  omega

end Binary

end ScriptHost
