import ScriptHost.Json.Basic
import ScriptHost.Number.Reading

/-!
# Reading JSON text

A strict reader. It tells two failures apart: the text ended where more was needed, or what
stands there cannot continue any JSON text. Containers nest at most 127 deep.

## Numbers

A number without point and exponent stays an integer as long as a 64-bit word holds it,
unsigned for positive numbers; the negative zero is a float. All other numbers are floats.
Their digits are collected into a 64-bit significand; once another digit would not fit, the
digits that follow are only counted (before the point) or dropped (behind it). The
significand is converted to a float and scaled by one power of ten, so two roundings can
occur, and the last digit can differ from that of the nearest float.
-/

namespace ScriptHost

attribute [local instance] natPow

/-- Why a text is not JSON. -/
inductive ParseError where
  /-- The text ended too early. -/
  | endOfText
  /-- The text cannot be continued to a JSON text. -/
  | malformed
  deriving DecidableEq, Repr

namespace Json

/-- What a reading step makes of the text in front of it: a result and the text left. -/
abbrev Rest (α : Type) := α × List Char

/-- The complaint about a text that does not go on as needed. -/
def complain {α : Type} : List Char → Except ParseError α
  | [] => .error .endOfText
  | _ :: _ => .error .malformed

/-- The four blanks of JSON. -/
def isBlank (c : Char) : Bool :=
  c == ' ' || c == '\t' || c == '\n' || c == '\r'

/-- The text behind leading blanks. -/
def skipBlanks (cs : List Char) : List Char :=
  cs.dropWhile isBlank

/-- The text behind an expected word. -/
def expect : List Char → List Char → Except ParseError (List Char)
  | [], cs => .ok cs
  | w :: ws, c :: cs => if c = w then expect ws cs else .error .malformed
  | _ :: _, [] => .error .endOfText

/-! ### Numbers -/

/-- The largest significand that is collected. -/
def maxSignificand : Nat := 2 ^ (64 : Nat) - 1

/-- The digit that a character stands for. -/
def digitOf (c : Char) : Nat := c.toNat - '0'.toNat

/-- Scales a positive float by a power of ten, in steps that a float can express; fails
where the result is too large. -/
def scale : Nat → Float64Bits → Int → Option Float64Bits
  | 0, x, _ => some x
  | steps + 1, x, e =>
    if e.natAbs ≤ 308 then
      if 0 ≤ e then
        let y := x.times (.ofDecimal _ false 1 e)
        if y.isFinite then some y else none
      else some (x.dividedBy (.ofDecimal _ false 1 (-e)))
    else if x.isZero then some x
    else if 0 ≤ e then none
    else scale steps (x.dividedBy (.ofDecimal _ false 1 308)) (e + 308)

/-- The float of a significand and a power of ten. Three steps of scaling bring every
significand to zero. -/
def floatOf (negative : Bool) (significand : Nat) (e : Int) : Except ParseError JsonNumber :=
  match (scale 4 (.ofInt _ significand) e).bind fun x =>
      JsonNumber.ofFloat? (if negative then x.negate else x) with
  | some n => .ok n
  | none => .error .malformed

/-- The largest exponent that is computed with. -/
def maxExponent : Nat := 2 ^ (31 : Nat) - 1

/-- The number of a significand and an exponent part, whose digits are at hand. -/
def withExponent (negative : Bool) (significand : Nat) (e : Int) (down : Bool)
    (digits : List Char) : Except ParseError JsonNumber :=
  let n := Nat.ofDigitChars 10 digits 0
  if n ≤ maxExponent then floatOf negative significand (if down then e - n else e + n)
  else if significand ≠ 0 ∧ !down then .error .malformed
  else floatOf negative 0 0

/-- Reads what follows the mark of an exponent. -/
def readExponent (negative : Bool) (significand : Nat) (e : Int) (cs : List Char) :
    Except ParseError (Rest JsonNumber) := do
  let (down, cs) := Binary.splitSign cs
  let (digits, rest) := cs.span Char.isDigit
  if digits.isEmpty then complain rest
  else
    let n ← withExponent negative significand e down digits
    pure (n, rest)

/-- Reads an exponent part, if there is one. -/
def finishFloat (negative : Bool) (significand : Nat) (e : Int) :
    List Char → Except ParseError (Rest JsonNumber)
  | 'e' :: cs => readExponent negative significand e cs
  | 'E' :: cs => readExponent negative significand e cs
  | cs => (floatOf negative significand e).map (·, cs)

/-- Collects digits into a significand until one does not fit; also says how many were
taken. -/
def collect (significand taken : Nat) : List Char → Nat × Nat × List Char
  | [] => (significand, taken, [])
  | c :: cs =>
    let next := significand * 10 + digitOf c
    if c.isDigit ∧ next ≤ maxSignificand then collect next (taken + 1) cs
    else (significand, taken, c :: cs)

/-- Reads the digits behind a point; those that do not fit are dropped. -/
def readPlaces (negative : Bool) (significand : Nat) (e : Int) (cs : List Char) :
    Except ParseError (Rest JsonNumber) :=
  let (significand, taken, rest) := collect significand 0 cs
  let dropped := rest.takeWhile Char.isDigit
  let rest := rest.dropWhile Char.isDigit
  if taken = 0 ∧ dropped.isEmpty then complain rest
  else finishFloat negative significand (e - taken) rest

/-- The number of an integer numeral without point and exponent. -/
def integerOf (negative : Bool) (n : Nat) : Except ParseError JsonNumber :=
  if negative then
    if n = 0 ∨ 2 ^ (63 : Nat) < n then floatOf true n 0 else .ok (.integer (-(n : Int)))
  else .ok (.integer n)

/-- Reads a number behind its sign. -/
def readNumber (negative : Bool) (cs : List Char) : Except ParseError (Rest JsonNumber) :=
  match cs with
  | [] => .error .endOfText
  | '0' :: rest =>
    match rest with
    | '.' :: rest => readPlaces negative 0 0 rest
    | 'e' :: _ => finishFloat negative 0 0 rest
    | 'E' :: _ => finishFloat negative 0 0 rest
    | c :: _ => if c.isDigit then .error .malformed else (integerOf negative 0).map (·, rest)
    | [] => (integerOf negative 0).map (·, rest)
  | c :: _ =>
    if !c.isDigit then .error .malformed
    else
      let (significand, _, rest) := collect 0 0 cs
      let counted := (rest.takeWhile Char.isDigit).length
      let rest := rest.dropWhile Char.isDigit
      match rest with
      | '.' :: rest => readPlaces negative significand counted rest
      | 'e' :: _ => finishFloat negative significand counted rest
      | 'E' :: _ => finishFloat negative significand counted rest
      | rest =>
        if counted = 0 then (integerOf negative significand).map (·, rest)
        else (floatOf negative significand counted).map (·, rest)

/-! ### Strings -/

/-- The number of bytes that a text takes in UTF-8. -/
def utf8Length (cs : List Char) : Nat :=
  cs.foldl (fun bytes c => bytes + c.utf8Size) 0

/-- The value of a hexadecimal digit. -/
def hexDigit? (c : Char) : Option Nat :=
  if c.isDigit then some (c.toNat - '0'.toNat)
  else if 'a' ≤ c ∧ c ≤ 'f' then some (c.toNat - 'a'.toNat + 10)
  else if 'A' ≤ c ∧ c ≤ 'F' then some (c.toNat - 'A'.toNat + 10)
  else none

/-- Reads four hexadecimal digits. A text with fewer than four bytes left has ended too
early, whatever those bytes are. -/
def readHex (cs : List Char) : Except ParseError (Rest Nat) :=
  match cs with
  | a :: b :: c :: d :: rest =>
    match hexDigit? a, hexDigit? b, hexDigit? c, hexDigit? d with
    | some a, some b, some c, some d => .ok (((a * 16 + b) * 16 + c) * 16 + d, rest)
    | _, _, _, _ => .error .malformed
  | cs => if utf8Length cs < 4 then .error .endOfText else .error .malformed

/-- Whether a code unit is the first half of a surrogate pair. -/
def isLeading (n : Nat) : Bool := 0xd800 ≤ n && n ≤ 0xdbff

/-- Whether a code unit is the second half of a surrogate pair. -/
def isTrailing (n : Nat) : Bool := 0xdc00 ≤ n && n ≤ 0xdfff

/-- Reads a character given by its code units; halves of surrogate pairs must come in pairs. -/
def readUnicode (cs : List Char) : Except ParseError (Rest Char) := do
  let (n, cs) ← readHex cs
  if isTrailing n then .error .malformed
  else if isLeading n then
    let cs ← expect ['\\', 'u'] cs
    let (m, cs) ← readHex cs
    if isTrailing m then
      pure (Char.ofNat ((n - 0xd800) * 0x400 + (m - 0xdc00) + 0x10000), cs)
    else .error .malformed
  else pure (Char.ofNat n, cs)

/-- Reads what follows a backslash. -/
def readEscape : List Char → Except ParseError (Rest Char)
  | '"' :: cs => .ok ('"', cs)
  | '\\' :: cs => .ok ('\\', cs)
  | '/' :: cs => .ok ('/', cs)
  | 'b' :: cs => .ok ('\x08', cs)
  | 'f' :: cs => .ok ('\x0c', cs)
  | 'n' :: cs => .ok ('\n', cs)
  | 'r' :: cs => .ok ('\r', cs)
  | 't' :: cs => .ok ('\t', cs)
  | 'u' :: cs => readUnicode cs
  | cs => complain cs

/-- Reads a string behind its opening quote; `acc` holds the characters so far, the last
one first. Every round takes at least one character, so more rounds than there are
characters are enough. -/
def readChars : Nat → List Char → List Char → Except ParseError (Rest String)
  | 0, _, _ => .error .endOfText
  | rounds + 1, acc, cs =>
    match cs with
    | [] => .error .endOfText
    | '"' :: cs => .ok (String.ofList acc.reverse, cs)
    | '\\' :: cs => do
      let (c, cs) ← readEscape cs
      readChars rounds (c :: acc) cs
    | c :: cs => if c.toNat < 0x20 then .error .malformed else readChars rounds (c :: acc) cs

/-! ### Trees -/

mutual

/-- Reads a tree that opens at most `depth` containers inside each other. The text left is
shorter than `size`. The first of the other arguments bounds the rounds of the reader; two
rounds take at least one character. -/
def readTree (size : Nat) : Nat → Nat → List Char → Except ParseError (Rest Json)
  | 0, _, _ => .error .endOfText
  | rounds + 1, depth, cs =>
    match skipBlanks cs with
    | 'n' :: cs => (expect ['u', 'l', 'l'] cs).map (Json.null, ·)
    | 't' :: cs => (expect ['r', 'u', 'e'] cs).map (Json.bool true, ·)
    | 'f' :: cs => (expect ['a', 'l', 's', 'e'] cs).map (Json.bool false, ·)
    | '-' :: cs => (readNumber true cs).map fun (n, cs) => (Json.number n, cs)
    | '"' :: cs => (readChars size [] cs).map fun (s, cs) => (Json.string s, cs)
    | '[' :: cs =>
      match depth with
      | 0 => .error .malformed
      | depth + 1 =>
        match skipBlanks cs with
        | ']' :: cs => .ok (Json.array [], cs)
        | cs => readItems size rounds depth [] cs
    | '\x7b' :: cs =>
      match depth with
      | 0 => .error .malformed
      | depth + 1 =>
        match skipBlanks cs with
        | '\x7d' :: cs => .ok (Json.object [], cs)
        | cs => readMembers size rounds depth [] cs
    | c :: cs =>
      if c.isDigit then (readNumber false (c :: cs)).map fun (n, cs) => (Json.number n, cs)
      else .error .malformed
    | [] => .error .endOfText

/-- Reads the items of an array from the next item on; `acc` holds the items so far, the
last one first. -/
def readItems (size : Nat) :
    Nat → Nat → List Json → List Char → Except ParseError (Rest Json)
  | 0, _, _, _ => .error .endOfText
  | rounds + 1, depth, acc, cs => do
    let (item, cs) ← readTree size rounds depth cs
    match skipBlanks cs with
    | ',' :: cs => readItems size rounds depth (item :: acc) cs
    | ']' :: cs => pure (Json.array (item :: acc).reverse, cs)
    | cs => complain cs

/-- Reads the members of an object from the next member on. A repeated name keeps its
first place and takes the last tree. -/
def readMembers (size : Nat) :
    Nat → Nat → Entries Json → List Char → Except ParseError (Rest Json)
  | 0, _, _, _ => .error .endOfText
  | rounds + 1, depth, acc, cs =>
    match skipBlanks cs with
    | '"' :: cs => do
      let (name, cs) ← readChars size [] cs
      let cs ← expect [':'] (skipBlanks cs)
      let (j, cs) ← readTree size rounds depth cs
      match skipBlanks cs with
      | ',' :: cs => readMembers size rounds depth (acc.put name j) cs
      | '\x7d' :: cs => pure (Json.object (acc.put name j), cs)
      | cs => complain cs
    | cs => complain cs

end

/-- The deepest nesting of containers. -/
def maxDepth : Nat := 127

/-- The tree of a whole text. -/
def parse (text : String) : Except ParseError Json := do
  let cs := text.toList
  let (j, rest) ← readTree (cs.length + 1) (2 * cs.length + 2) maxDepth cs
  if (skipBlanks rest).isEmpty then pure j else .error .malformed

end Json

end ScriptHost
