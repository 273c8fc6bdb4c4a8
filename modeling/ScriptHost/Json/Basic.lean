import ScriptHost.Value

/-!
# JSON trees

The trees that documents are handles into. Object members are ordered and, in every tree
that this library builds, have distinct names. A number is either an integer or a finite
float, and the two are never confused: an integer is not turned into a float by being kept.
-/

namespace ScriptHost

/-- A JSON number. -/
inductive JsonNumber where
  /-- A whole number, kept exactly. -/
  | integer (n : Int)
  /-- A finite float; JSON has no other. -/
  | float (x : Float64Bits) (finite : x.isFinite = true)
  deriving DecidableEq, Repr

/-- A JSON tree. -/
inductive Json where
  | null
  | bool (b : Bool)
  | number (n : JsonNumber)
  | string (s : String)
  | array (items : List Json)
  | object (members : List (String × Json))
  deriving Repr, Inhabited

namespace JsonNumber

/-- The number of a finite float. -/
def ofFloat? (x : Float64Bits) : Option JsonNumber :=
  if h : x.isFinite = true then some (float x h) else none

/-- A number as a value: the narrowest integer type that holds it, else a float. -/
def toValue : JsonNumber → Value
  | integer n =>
    if Int32.minValue.toInt ≤ n ∧ n ≤ Int32.maxValue.toInt then .int32 (Int32.ofInt n)
    else if Int64.minValue.toInt ≤ n ∧ n ≤ Int64.maxValue.toInt then .int64 (Int64.ofInt n)
    else .float64 (.ofInt _ n)
  | float x _ => .float64 x

end JsonNumber

namespace Json

/-- The members of an object. -/
def members? : Json → Option (Entries Json)
  | object members => some members
  | _ => none

/-- The items of an array. -/
def items? : Json → Option (List Json)
  | array items => some items
  | _ => none

/-- Whether this is an object. -/
def isObject (j : Json) : Bool := j.members?.isSome

/-- Whether this is an array. -/
def isArray (j : Json) : Bool := j.items?.isSome

end Json

end ScriptHost
