import ScriptHost.Number.Shortest

/-!
# Layouts of floating-point numbers

A layout decides how the shortest decimal of a number is written out: which exponents are
written positionally, with zeros in the places that hold no digit, and how the others are
written with an explicit power of ten.
-/

namespace ScriptHost

/-- How a decimal is written. -/
structure Layout where
  /-- Which decimal is taken of two that are equally near. -/
  tie : Tie
  /-- The least and the largest power of ten of a leading digit that is written
  positionally; without bounds all are. -/
  positional : Option (Int × Int)
  /-- What follows the digits of a whole number written positionally. -/
  wholeEnd : String
  /-- The sign of an exponent that is not negative. -/
  plus : String

namespace Layout

/-- Plain text never uses exponents, and writes whole numbers like integers. -/
def display : Layout := ⟨.up, none, "", ""⟩

/-- Diagnostic text marks whole numbers as floating, and leaves the positional form below
a ten-thousandth and from ten to the sixteenth on. -/
def diagnostic : Layout := ⟨.up, some (-4, 15), ".0", ""⟩

/-- Document text keeps one more place than diagnostic text and signs its exponents. -/
def document : Layout := ⟨.even, some (-5, 15), ".0", "+"⟩

/-- Whether a leading digit at this power of ten is written positionally. -/
def isPositional (l : Layout) (lead : Int) : Bool :=
  match l.positional with
  | none => true
  | some (least, most) => least ≤ lead && lead ≤ most

/-- A decimal with zeros in its empty places. -/
def writePositional (l : Layout) (digits : List Char) (point : Int) : List Char :=
  if point ≤ 0 then ['0', '.'] ++ List.replicate (-point).toNat '0' ++ digits
  else if point < digits.length then digits.take point.toNat ++ '.' :: digits.drop point.toNat
  else digits ++ List.replicate (point - digits.length).toNat '0' ++ l.wholeEnd.toList

/-- A decimal as one leading digit, further digits and a power of ten. -/
def writeScientific (l : Layout) (digits : List Char) (point : Int) : List Char :=
  let lead := point - 1
  let tail := digits.drop 1
  digits.take 1 ++ (if tail.isEmpty then [] else '.' :: tail) ++ 'e' ::
    ((if 0 ≤ lead then l.plus.toList else []) ++ lead.repr.toList)

/-- A positive decimal in this layout. -/
def writeDecimal (l : Layout) (d : Decimal) : List Char :=
  let digits := Nat.toDigits 10 d.digits
  let point := (digits.length : Int) + d.exponent
  if l.isPositional (point - 1) then l.writePositional digits point
  else l.writeScientific digits point

/-- A floating-point number in this layout. -/
def write {f : Format} (l : Layout) (x : Binary f) : String :=
  if x.isNaN then "NaN"
  else
    let sign := if x.isNegative then "-" else ""
    if !x.isFinite then sign ++ "inf"
    else if x.isZero then sign ++ "0" ++ l.wholeEnd
    else sign ++ String.ofList (l.writeDecimal (x.shortest l.tie))

end Layout

end ScriptHost
