import ScriptHost.Number.Binary
import ScriptHost.Entries

/-!
# Values

A value is what crosses between a script and its host. Scalars are held inline. Everything
with properties is a handle: the address of a cell that the host owns, so that all copies
of a handle see the same cell. A place that can be empty is a `Slot`; emptiness is not a
value of its own.

Scalars are equal when their contents are, with the floating-point rules for NaN and the
two zeros; handles are equal when they lead to the same place.
-/

namespace ScriptHost

/-- The place of a cell among the cells of its sort. -/
abbrev Address := Nat

/-- A node inside a document: a tree and the pointer that leads from its root to the node. -/
structure Document where
  /-- The tree. -/
  tree : Address
  /-- The pointer, empty for the root. -/
  pointer : String
  deriving DecidableEq, Repr, Inhabited

/-- The runtime types of values. -/
inductive ValueType where
  | bool | int32 | int64 | float32 | float64 | string
  | mapping | list | array | object | record | document
  deriving DecidableEq, Repr

/-- The name of a type in messages. -/
def ValueType.name : ValueType → String
  | .bool => "bool"
  | .int32 => "int32"
  | .int64 => "int64"
  | .float32 => "float32"
  | .float64 => "float64"
  | .string => "string"
  | .mapping => "mapping"
  | .list => "list"
  | .array => "array"
  | .object => "object"
  | .record => "record"
  | .document => "document"

/-- A value of the host. -/
inductive Value where
  /-- A truth value. -/
  | bool (b : Bool)
  /-- A 32-bit integer. -/
  | int32 (n : Int32)
  /-- A 64-bit integer. -/
  | int64 (n : Int64)
  /-- A 32-bit float. -/
  | float32 (x : Float32Bits)
  /-- A 64-bit float. -/
  | float64 (x : Float64Bits)
  /-- A text. -/
  | string (s : String)
  /-- A handle to named slots in order. -/
  | mapping (cell : Address)
  /-- A handle to a growable sequence of slots. -/
  | list (cell : Address)
  /-- A handle to an array of fixed length and element type. -/
  | array (cell : Address)
  /-- A handle to an object that answers property access itself. -/
  | object (cell : Address)
  /-- A handle to a typed record. -/
  | record (cell : Address)
  /-- A handle into a document. -/
  | document (d : Document)
  deriving DecidableEq, Repr

/-- A place that holds a value or is empty. -/
abbrev Slot := Option Value

namespace Value

/-- The runtime type. -/
def type : Value → ValueType
  | bool _ => .bool
  | int32 _ => .int32
  | int64 _ => .int64
  | float32 _ => .float32
  | float64 _ => .float64
  | string _ => .string
  | mapping _ => .mapping
  | list _ => .list
  | array _ => .array
  | object _ => .object
  | record _ => .record
  | document _ => .document

/-- Whether this is one of the four numeric scalars. -/
def isNumeric : Value → Bool
  | int32 _ | int64 _ | float32 _ | float64 _ => true
  | _ => false

/-- Whether this is a handle and not a scalar. -/
def isHandle : Value → Bool
  | mapping _ | list _ | array _ | object _ | record _ | document _ => true
  | _ => false

/-! ### Views

A view reads a value as one type. The exact views take that type alone; the widening ones
also take the narrower numeric types, and round integers that a float cannot hold. -/

/-- The text of a string. -/
def asString? : Value → Option String
  | string s => some s
  | _ => none

/-- The truth value of a bool. -/
def asBool? : Value → Option Bool
  | bool b => some b
  | _ => none

/-- The number of a 32-bit integer; nothing is narrowed or widened. -/
def asInt32? : Value → Option Int32
  | int32 n => some n
  | _ => none

/-- The node of a document handle. -/
def asDocument? : Value → Option Document
  | document d => some d
  | _ => none

/-- An integer of either width as a 64-bit integer. -/
def widenToInt64? : Value → Option Int64
  | int32 n => some n.toInt64
  | int64 n => some n
  | _ => none

/-- An integer or a 32-bit float as a 32-bit float. -/
def widenToFloat32? : Value → Option Float32Bits
  | int32 n => some (.ofInt _ n.toInt)
  | int64 n => some (.ofInt _ n.toInt)
  | float32 x => some x
  | _ => none

/-- Any numeric scalar as a 64-bit float. -/
def widenToFloat64? : Value → Option Float64Bits
  | int32 n => some (.ofInt _ n.toInt)
  | int64 n => some (.ofInt _ n.toInt)
  | float32 x => some (x.convert _)
  | float64 x => some x
  | _ => none

/-! ### Equality -/

/-- Equality of values: scalars by content, handles by the place they lead to. -/
def same : Value → Value → Bool
  | float32 x, float32 y => x.numEq y
  | float64 x, float64 y => x.numEq y
  | a, b => a == b

end Value

/-- Equality of slots: an empty slot equals only an empty slot. -/
def Slot.same : Slot → Slot → Bool
  | none, none => true
  | some a, some b => a.same b
  | _, _ => false

/-- The type name of what a slot holds. -/
def Slot.typeName (v : Slot) : String :=
  match v with
  | none => "absent"
  | some v => v.type.name

end ScriptHost
