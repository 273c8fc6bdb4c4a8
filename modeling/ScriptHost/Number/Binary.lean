/-!
# Binary floating-point numbers

Numbers of an IEEE 754 interchange format, kept as their bits. Every operation decodes the
bits into a sign and a significand times a power of two, works on exact natural numbers,
and rounds once.

## The model

The bits below the sign, read as a natural number, are the *magnitude*. Magnitudes are
ordered like the absolute values they stand for: zero first, then the subnormal numbers,
the normal numbers, infinity, and above it every NaN. So the magnitude nearest to a
positive rational is found by rounding one quotient to a natural number, and a carry out
of the significand moves on to the next power of two by itself.
-/

namespace ScriptHost

/-- Powers of natural numbers, as the core library has them. -/
abbrev natPow : Pow Nat Nat := ⟨Nat.pow⟩

attribute [local instance] natPow

/-- A binary interchange format. -/
structure Format where
  /-- Bits of the significand that are stored. -/
  fractionBits : Nat
  /-- Bits of the biased exponent. -/
  exponentBits : Nat
  deriving DecidableEq, Repr

namespace Format

/-- The 32-bit format. -/
def binary32 : Format := ⟨23, 8⟩

/-- The 64-bit format. -/
def binary64 : Format := ⟨52, 11⟩

/-- Bits below the sign bit. -/
def magnitudeBits (f : Format) : Nat := f.exponentBits + f.fractionBits

/-- Bits of a number of this format. -/
def width (f : Format) : Nat := f.magnitudeBits + 1

/-- The exponent offset, and the exponent of the largest finite numbers. -/
def bias (f : Format) : Nat := 2 ^ (f.exponentBits - 1) - 1

/-- The exponent of the smallest positive number. -/
def minExponent (f : Format) : Int := 1 - (f.bias : Int) - f.fractionBits

/-- The magnitude of infinity. -/
def infinity (f : Format) : Nat := (2 ^ f.exponentBits - 1) * 2 ^ f.fractionBits

end Format

/-- A number of the format `f`, as its bits. -/
structure Binary (f : Format) where
  /-- The sign bit, the biased exponent and the fraction, from the highest bit down. -/
  bits : BitVec f.width
  deriving DecidableEq, Repr

/-- A 32-bit float. -/
abbrev Float32Bits := Binary .binary32

/-- A 64-bit float. -/
abbrev Float64Bits := Binary .binary64

/-- A quotient of natural numbers, rounded to the nearest, a half to the even neighbour. -/
def roundHalfEven (num den : Nat) : Nat :=
  let floor := num / den
  let rest := num % den
  if 2 * rest < den then floor else if den < 2 * rest then floor + 1 else floor + floor % 2

/-- The largest `k` with `2 ^ k ≤ num / den`, for positive `num` and `den`. -/
def floorLog2 (num den : Nat) : Int :=
  let k : Int := (num.log2 : Int) - den.log2
  if den * 2 ^ k.toNat ≤ num * 2 ^ (-k).toNat then k else k - 1

namespace Format

/-- The magnitude nearest to the rational `num / den`; what is too large becomes infinity. -/
def nearest (f : Format) (num den : Nat) : Nat :=
  if num = 0 then 0
  else
    let e := max (floorLog2 num den - f.fractionBits) f.minExponent
    let significand := roundHalfEven (num * 2 ^ (-e).toNat) (den * 2 ^ e.toNat)
    min f.infinity ((e - f.minExponent).toNat * 2 ^ f.fractionBits + significand)

end Format

namespace Binary

variable {f : Format}

/-! ### Taking a number apart -/

/-- Whether the sign bit is set. -/
def isNegative (x : Binary f) : Bool :=
  2 ^ f.magnitudeBits ≤ x.bits.toNat

/-- The bits below the sign. -/
def magnitude (x : Binary f) : Nat :=
  x.bits.toNat % 2 ^ f.magnitudeBits

/-- Whether this is one of the not-a-number values. -/
def isNaN (x : Binary f) : Bool :=
  f.infinity < x.magnitude

/-- Whether this is a zero, subnormal or normal number. -/
def isFinite (x : Binary f) : Bool :=
  x.magnitude < f.infinity

/-- Whether this is one of the two zeros. -/
def isZero (x : Binary f) : Bool :=
  x.magnitude == 0

/-- The biased exponent. -/
def exponentField (x : Binary f) : Nat :=
  x.magnitude / 2 ^ f.fractionBits

/-- The stored part of the significand. -/
def fraction (x : Binary f) : Nat :=
  x.magnitude % 2 ^ f.fractionBits

/-- The significand of a finite number as a whole number. -/
def significand (x : Binary f) : Nat :=
  if x.exponentField = 0 then x.fraction else 2 ^ f.fractionBits + x.fraction

/-- The power of two that scales the significand of a finite number. -/
def exponent (x : Binary f) : Int :=
  f.minExponent + ((x.exponentField - 1 : Nat) : Int)

/-- The absolute value of a finite number as a quotient, numerator first. -/
def ratio (x : Binary f) : Nat × Nat :=
  (x.significand * 2 ^ x.exponent.toNat, 2 ^ (-x.exponent).toNat)

/-! ### Putting a number together -/

/-- The number of this sign and magnitude. -/
def ofMagnitude (f : Format) (negative : Bool) (magnitude : Nat) : Binary f :=
  ⟨BitVec.ofNat f.width (if negative then 2 ^ f.magnitudeBits + magnitude else magnitude)⟩

/-- The NaN that operations answer. -/
def nan (f : Format) : Binary f :=
  ofMagnitude f false (f.infinity + 2 ^ (f.fractionBits - 1))

/-- The infinity of this sign. -/
def infinity (f : Format) (negative : Bool) : Binary f :=
  ofMagnitude f negative f.infinity

/-- The positive zero. -/
def zero (f : Format) : Binary f :=
  ofMagnitude f false 0

/-- The number nearest to a rational of this sign. -/
def ofRatio (f : Format) (negative : Bool) (num den : Nat) : Binary f :=
  ofMagnitude f negative (f.nearest num den)

/-- The number nearest to an integer. -/
def ofInt (f : Format) (n : Int) : Binary f :=
  ofRatio f (n < 0) n.natAbs 1

/-! ### Conversions -/

/-- The number of another format nearest to this one. -/
def convert (g : Format) (x : Binary f) : Binary g :=
  if x.isNaN then nan g
  else if x.isFinite then ofRatio g x.isNegative x.ratio.1 x.ratio.2
  else infinity g x.isNegative

/-- The whole part of a finite number, with its sign. -/
def truncate (x : Binary f) : Int :=
  let whole : Nat := x.ratio.1 / x.ratio.2
  if x.isNegative then -(whole : Int) else whole

/-- The integer between two bounds nearest to the whole part; NaN counts as zero. -/
def clampTo (low high : Int) (x : Binary f) : Int :=
  if x.isNaN then 0
  else if x.isFinite then max low (min high x.truncate)
  else if x.isNegative then low else high

/-- The whole part as a 32-bit integer; what does not fit saturates, NaN gives zero. -/
def toInt32 (x : Binary f) : Int32 :=
  Int32.ofInt (x.clampTo Int32.minValue.toInt Int32.maxValue.toInt)

/-- The whole part as a 64-bit integer; what does not fit saturates, NaN gives zero. -/
def toInt64 (x : Binary f) : Int64 :=
  Int64.ofInt (x.clampTo Int64.minValue.toInt Int64.maxValue.toInt)

/-! ### Comparison and arithmetic -/

/-- Equality of numbers: NaN equals nothing, and the two zeros are equal. -/
def numEq (x y : Binary f) : Bool :=
  !x.isNaN && !y.isNaN && (x == y || (x.isZero && y.isZero))

/-- The same number with the other sign. -/
def negate (x : Binary f) : Binary f :=
  ofMagnitude f (!x.isNegative) x.magnitude

/-- The product of two finite numbers. -/
def times (x y : Binary f) : Binary f :=
  ofRatio f (x.isNegative != y.isNegative) (x.ratio.1 * y.ratio.1) (x.ratio.2 * y.ratio.2)

/-- The quotient of two finite numbers, the second of them nonzero. -/
def dividedBy (x y : Binary f) : Binary f :=
  ofRatio f (x.isNegative != y.isNegative) (x.ratio.1 * y.ratio.2) (x.ratio.2 * y.ratio.1)

end Binary

end ScriptHost
