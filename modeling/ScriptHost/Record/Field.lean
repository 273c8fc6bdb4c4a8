import ScriptHost.AccessError

/-!
# Field types

What the fields of a record can hold, and the conversion between a field's content and a
slot. A field takes values of its own type and numeric values that widen to it; nothing is
coerced. Optional fields also take the empty slot, and any number of optional layers can be
laid over a type; a slot cannot tell in which of the layers a content is missing.
-/

namespace ScriptHost

/-- The types of record fields. -/
inductive FieldType where
  | bool | int32 | int64 | float32 | float64 | string
  /-- A value of any type. -/
  | value
  | mapping | list | array | object | record | document
  /-- A content of this type, or nothing. -/
  | option (t : FieldType)
  deriving DecidableEq, Repr

namespace FieldType

/-- The contents of a field. -/
abbrev Carrier : FieldType → Type
  | bool => Bool
  | int32 => Int32
  | int64 => Int64
  | float32 => Float32Bits
  | float64 => Float64Bits
  | string => String
  | value => Value
  | mapping | list | array | object | record => Address
  | document => Document
  | option t => Option (Carrier t)

/-- A field's content as a slot. -/
def toSlot : (t : FieldType) → t.Carrier → Slot
  | bool, b => some (.bool b)
  | int32, n => some (.int32 n)
  | int64, n => some (.int64 n)
  | float32, x => some (.float32 x)
  | float64, x => some (.float64 x)
  | string, s => some (.string s)
  | value, v => some v
  | mapping, a => some (.mapping a)
  | list, a => some (.list a)
  | array, a => some (.array a)
  | object, a => some (.object a)
  | record, a => some (.record a)
  | document, d => some (.document d)
  | option _, none => none
  | option t, some c => toSlot t c

/-- The type under all optional layers. -/
def core : FieldType → FieldType
  | option t => core t
  | t => t

/-- The number of optional layers. -/
def layers : FieldType → Nat
  | option t => layers t + 1
  | _ => 0

/-- A slot's content as the content of a field, if it fits. -/
def ofSlot : (t : FieldType) → Slot → Except AccessError t.Carrier
  | bool, v =>
    match v.bind Value.asBool? with
    | some b => .ok b
    | none => .error (v.mismatch (.ofType .bool))
  | int32, v =>
    match v.bind Value.asInt32? with
    | some n => .ok n
    | none => .error (v.mismatch (.ofType .int32))
  | int64, v =>
    match v.bind Value.widenToInt64? with
    | some n => .ok n
    | none => .error (v.mismatch (.ofType .int64))
  | float32, v =>
    match v.bind Value.widenToFloat32? with
    | some x => .ok x
    | none => .error (v.mismatch (.ofType .float32))
  | float64, v =>
    match v.bind Value.widenToFloat64? with
    | some x => .ok x
    | none => .error (v.mismatch (.ofType .float64))
  | string, some (.string s) => .ok s
  | string, v => .error (v.mismatch (.ofType .string))
  | value, some v => .ok v
  | value, none => .error (.typeMismatch .present none)
  | mapping, some (.mapping a) => .ok a
  | mapping, v => .error (v.mismatch (.ofType .mapping))
  | list, some (.list a) => .ok a
  | list, v => .error (v.mismatch (.ofType .list))
  | array, some (.array a) => .ok a
  | array, v => .error (v.mismatch (.ofType .array))
  | object, some (.object a) => .ok a
  | object, v => .error (v.mismatch (.ofType .object))
  | record, some (.record a) => .ok a
  | record, v => .error (v.mismatch (.ofType .record))
  | document, some (.document d) => .ok d
  | document, v => .error (v.mismatch (.ofType .document))
  | option _, none => .ok none
  | option t, some v => (ofSlot t (some v)).map some

end FieldType

/-- A field of a record instance: its identifier and its content. -/
structure StoredField where
  /-- The identifier. -/
  ident : String
  /-- The type. -/
  type : FieldType
  /-- The content. -/
  content : type.Carrier

namespace StoredField

/-- The content as a slot. -/
def read (f : StoredField) : Slot :=
  f.type.toSlot f.content

/-- The field with another content, if a slot fits. -/
def write (f : StoredField) (v : Slot) : Except AccessError StoredField :=
  (f.type.ofSlot v).map fun c => { f with content := c }

end StoredField

end ScriptHost
