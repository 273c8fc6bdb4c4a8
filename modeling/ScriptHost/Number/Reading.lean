import ScriptHost.Number.Binary
import ScriptHost.Text.Numeral

/-!
# Reading floating-point numbers

A decimal text denotes a rational number, and is read as the number of the wanted format
nearest to it: rounding happens once, whatever the length of the text.

An exponent can ask for a power of ten of any size. Before any power is computed, the
position of the decimal point is compared with the range of the format: a value with more
whole digits than the largest binary exponent is beyond every finite number, and one with
more zeros behind the point than the smallest binary exponent is below half the smallest
positive number. Only what lies between is worked out.
-/

namespace ScriptHost.Binary

attribute [local instance] natPow

/-- The number nearest to `digits * 10 ^ exponent`. -/
def ofDecimal (f : Format) (negative : Bool) (digits : Nat) (exponent : Int) : Binary f :=
  let point : Int := ((Nat.toDigits 10 digits).length : Int) + exponent
  if digits = 0 then ofMagnitude f negative 0
  else if (f.bias : Int) + 2 < point then infinity f negative
  else if point < f.minExponent - 1 then ofMagnitude f negative 0
  else ofRatio f negative (digits * 10 ^ exponent.toNat) (10 ^ (-exponent).toNat)

/-- A sign and what follows it; without a sign a text is positive. -/
def splitSign : List Char → Bool × List Char
  | '-' :: cs => (true, cs)
  | '+' :: cs => (false, cs)
  | cs => (false, cs)

/-- The integer that a nonempty exponent part denotes, `0` when there is no such part. -/
def readExponent? : List Char → Option Int
  | [] => some 0
  | c :: cs => if c = 'e' ∨ c = 'E' then Numeral.int? cs else none

/-- An unsigned decimal number: digits, at most one point with a digit beside it, and an
optional exponent. -/
def readDecimal? (f : Format) (negative : Bool) (cs : List Char) : Option (Binary f) :=
  let (whole, rest) := cs.span Char.isDigit
  let (places, rest) :=
    match rest with
    | '.' :: rest => rest.span Char.isDigit
    | rest => ([], rest)
  if whole = [] ∧ places = [] then none
  else (readExponent? rest).map fun e =>
    ofDecimal f negative (Nat.ofDigitChars 10 (whole ++ places) 0) (e - places.length)

/-- The words for the numbers that are not finite, in any mixture of cases. -/
def readWord? (f : Format) (negative : Bool) (cs : List Char) : Option (Binary f) :=
  match String.ofList (cs.map Char.toLower) with
  | "inf" => some (infinity f negative)
  | "infinity" => some (infinity f negative)
  | "nan" => some (nan f)
  | _ => none

/-- The number that a text denotes once it is trimmed. -/
def ofText? (f : Format) (text : String) : Option (Binary f) :=
  let (negative, cs) := splitSign (Text.trim text.toList)
  readWord? f negative cs <|> readDecimal? f negative cs

end ScriptHost.Binary
