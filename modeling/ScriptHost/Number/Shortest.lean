import ScriptHost.Number.Binary

/-!
# Shortest decimals

The decimal number with the fewest digits among those that are read back as a given
floating-point number, and of several such the nearest to it.

All reals between the midpoints to the two neighbouring numbers are read as the number
itself; a midpoint belongs to the number whose significand is even. Decimals with few
digits are the points of coarse grids: the multiples of a power of ten. If any point of a
grid lies in the interval, so does one of the two grid points around the number, so it is
enough to try these two on ever finer grids and to stop at the first hit.
-/

namespace ScriptHost

attribute [local instance] natPow

/-- Which of two decimals equally far from the number is taken. -/
inductive Tie where
  /-- The larger one. -/
  | up
  /-- The one with an even last digit. -/
  | even
  deriving DecidableEq, Repr

/-- A positive decimal number. -/
structure Decimal where
  /-- The digits, as a natural number. -/
  digits : Nat
  /-- The power of ten that scales the digits. -/
  exponent : Int
  deriving DecidableEq, Repr

namespace Binary

variable {f : Format}

/-- The reals that are read as a positive finite number, in units of `2 ^ unit`. -/
structure Interval where
  /-- The lower end. -/
  low : Nat
  /-- The number itself. -/
  value : Nat
  /-- The upper end. -/
  high : Nat
  /-- Whether the ends belong to the interval. -/
  closed : Bool
  /-- The power of two that is the unit. -/
  unit : Int

/-- The interval of a positive finite number. Below a power of two the numbers lie twice
as close, so there the lower end is nearer. -/
def interval (x : Binary f) : Interval :=
  let below := if x.fraction = 0 ∧ 1 < x.exponentField then 1 else 2
  { low := 4 * x.significand - below
    value := 4 * x.significand
    high := 4 * x.significand + 2
    closed := x.significand % 2 == 0
    unit := x.exponent - 2 }

/-- The better of the two multiples of `10 ^ k` around the number, if one of them lies in
the interval. -/
def gridPoint? (tie : Tie) (i : Interval) (k : Int) : Option Nat :=
  let step := 10 ^ k.toNat * 2 ^ (-i.unit).toNat
  let scale := 10 ^ (-k).toNat * 2 ^ i.unit.toNat
  let value := i.value * scale
  let floor := value / step
  let inside (c : Nat) : Bool :=
    if i.closed then i.low * scale ≤ c * step && c * step ≤ i.high * scale
    else i.low * scale < c * step && c * step < i.high * scale
  let below := value - floor * step
  let above := (floor + 1) * step - value
  let lower :=
    below < above || (below == above && tie == .even && floor % 2 == 0)
  match inside floor, inside (floor + 1) with
  | true, true => some (if lower then floor else floor + 1)
  | true, false => some floor
  | false, true => some (floor + 1)
  | false, false => none

/-- Tries grids from `10 ^ k` downwards; the number itself stands for a search that ran
out of steps. -/
def searchGrids (tie : Tie) (i : Interval) : Nat → Int → Decimal
  | 0, k => ⟨i.value * 10 ^ (-k).toNat * 2 ^ i.unit.toNat / (10 ^ k.toNat * 2 ^ (-i.unit).toNat), k⟩
  | steps + 1, k =>
    match gridPoint? tie i k with
    | some digits => ⟨digits, k⟩
    | none => searchGrids tie i steps (k - 1)

/-- The shortest decimal of the absolute value of a finite nonzero number. The first grid
is coarser than twice the number, since `log₁₀ 2` is below `0.30103`. -/
def shortest (tie : Tie) (x : Binary f) : Decimal :=
  let i := x.interval
  let top := (i.value.log2 : Int) + i.unit + 2
  searchGrids tie i (f.fractionBits + 8) (top * 30103 / 100000 + 2)

end Binary

end ScriptHost
