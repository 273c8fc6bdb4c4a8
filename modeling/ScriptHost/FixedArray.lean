import ScriptHost.AccessError

/-!
# Fixed arrays

Arrays whose length and element type never change. An element place takes its own type or
a numeric type that widens to it, and rejects everything else untouched; the places of
string arrays and of arrays of any value can also be empty.
-/

namespace ScriptHost

/-- The element types of fixed arrays. -/
inductive ElementType where
  | bool | int32 | int64 | float32 | float64
  /-- Texts, in places that can be empty. -/
  | string
  /-- Values of any type, in places that can be empty. -/
  | any
  deriving DecidableEq, Repr

/-- The name of an element type. -/
def ElementType.name : ElementType → String
  | .bool => "bool"
  | .int32 => "int32"
  | .int64 => "int64"
  | .float32 => "float32"
  | .float64 => "float64"
  | .string => "string"
  | .any => "any"

/-- The name of an element type in diagnostic text. -/
def ElementType.diagnostic : ElementType → String
  | .bool => "Bool"
  | .int32 => "Int32"
  | .int64 => "Int64"
  | .float32 => "Float32"
  | .float64 => "Float64"
  | .string => "String"
  | .any => "Any"

/-- An array of fixed length and element type. -/
inductive FixedArray where
  | bool (items : List Bool)
  | int32 (items : List Int32)
  | int64 (items : List Int64)
  | float32 (items : List Float32Bits)
  | float64 (items : List Float64Bits)
  | string (items : List (Option String))
  | any (items : List Slot)
  deriving DecidableEq, Repr

namespace FixedArray

/-- The array of `n` default elements. -/
def filled (n : Nat) : ElementType → FixedArray
  | .bool => bool (List.replicate n false)
  | .int32 => int32 (List.replicate n 0)
  | .int64 => int64 (List.replicate n 0)
  | .float32 => float32 (List.replicate n (.zero _))
  | .float64 => float64 (List.replicate n (.zero _))
  | .string => string (List.replicate n none)
  | .any => any (List.replicate n none)

/-- The element type. -/
def elementType : FixedArray → ElementType
  | bool _ => .bool
  | int32 _ => .int32
  | int64 _ => .int64
  | float32 _ => .float32
  | float64 _ => .float64
  | string _ => .string
  | any _ => .any

/-- The number of elements. -/
def size : FixedArray → Nat
  | bool items => items.length
  | int32 items => items.length
  | int64 items => items.length
  | float32 items => items.length
  | float64 items => items.length
  | string items => items.length
  | any items => items.length

/-- The element at an index; nothing for an empty place and beyond the end. -/
def get (a : FixedArray) (i : Nat) : Slot :=
  match a with
  | bool items => items[i]?.map .bool
  | int32 items => items[i]?.map .int32
  | int64 items => items[i]?.map .int64
  | float32 items => items[i]?.map .float32
  | float64 items => items[i]?.map .float64
  | string items => items[i]?.join.map .string
  | any items => items[i]?.join

/-- All elements in order. -/
def slots : FixedArray → List Slot
  | bool items => items.map fun b => some (.bool b)
  | int32 items => items.map fun n => some (.int32 n)
  | int64 items => items.map fun n => some (.int64 n)
  | float32 items => items.map fun x => some (.float32 x)
  | float64 items => items.map fun x => some (.float64 x)
  | string items => items.map fun s => s.map .string
  | any items => items

@[simp] theorem length_slots (a : FixedArray) : a.slots.length = a.size := by
  cases a <;> simp [slots, size]

/-- Reading one element agrees with listing them all. -/
theorem get_eq_slots (a : FixedArray) (i : Nat) : a.get i = a.slots[i]?.join := by
  cases a <;> simp [get, slots]
  all_goals cases (_ : List _)[i]? <;> rfl

/-- What an element place asks of a value. -/
def accept {α : Type} (t : ValueType) (view : Value → Option α) (v : Slot) :
    Except AccessError α :=
  match v.bind view with
  | some a => .ok a
  | none => .error (v.mismatch (.ofType t))

/-- What a place for a text or nothing asks of a value. -/
def acceptText : Slot → Except AccessError (Option String)
  | none => .ok none
  | some (.string s) => .ok (some s)
  | v => .error (v.mismatch (.ofType .string))

/-- The array with the element at an index replaced. A failure reports the index as a
64-bit integer. -/
def store (a : FixedArray) (i : Nat) (v : Slot) : Except AccessError FixedArray :=
  if a.size ≤ i then .error (.outOfRange (Int64.ofNat i).toInt a.size)
  else
    match a with
    | bool items => (accept .bool Value.asBool? v).map fun x => bool (items.set i x)
    | int32 items => (accept .int32 Value.asInt32? v).map fun x => int32 (items.set i x)
    | int64 items => (accept .int64 Value.widenToInt64? v).map fun x => int64 (items.set i x)
    | float32 items =>
      (accept .float32 Value.widenToFloat32? v).map fun x => float32 (items.set i x)
    | float64 items =>
      (accept .float64 Value.widenToFloat64? v).map fun x => float64 (items.set i x)
    | string items => (acceptText v).map fun x => string (items.set i x)
    | any items => .ok (any (items.set i v))

/-- Whether two sequences have equal elements in order. -/
def pairwise {α : Type} (eq : α → α → Bool) : List α → List α → Bool
  | [], [] => true
  | x :: xs, y :: ys => eq x y && pairwise eq xs ys
  | _, _ => false

/-- Equality of arrays: same element type, same length, equal elements. -/
def same : FixedArray → FixedArray → Bool
  | bool xs, bool ys => xs == ys
  | int32 xs, int32 ys => xs == ys
  | int64 xs, int64 ys => xs == ys
  | float32 xs, float32 ys => pairwise Binary.numEq xs ys
  | float64 xs, float64 ys => pairwise Binary.numEq xs ys
  | string xs, string ys => xs == ys
  | any xs, any ys => pairwise Slot.same xs ys
  | _, _ => false

end FixedArray

end ScriptHost
