import ScriptHost.Display
import ScriptHost.Number.Reading

/-!
# Coercion

One total function for each primitive type. What cannot be read as the type gives the
default. Numbers convert among themselves, numbers are true unless they are zero, texts
are parsed, and everything has a text.
-/

namespace ScriptHost.Coercion

/-- The 32-bit integer that a text denotes, or the default. Property keys are resolved to
indices in the same way. -/
def parseInt32 (text : String) (default : Int32) : Int32 :=
  (Numeral.int32? text).getD default

/-- A slot as a text. -/
def toText (h : Heap) (v : Slot) (default : String) : String :=
  match v with
  | none => default
  | some (.string s) => s
  | some v => v.display h

/-- A slot as a 32-bit integer. Wide integers wrap, floats saturate. -/
def toInt32 (v : Slot) (default : Int32) : Int32 :=
  match v with
  | some (.int32 n) => n
  | some (.int64 n) => n.toInt32
  | some (.float32 x) => x.toInt32
  | some (.float64 x) => x.toInt32
  | some (.string s) => parseInt32 s default
  | _ => default

/-- A slot as a 64-bit integer. Floats saturate. -/
def toInt64 (v : Slot) (default : Int64) : Int64 :=
  match v with
  | some (.int32 n) => n.toInt64
  | some (.int64 n) => n
  | some (.float32 x) => x.toInt64
  | some (.float64 x) => x.toInt64
  | some (.string s) => (Numeral.int64? s).getD default
  | _ => default

/-- A slot as a 32-bit float. -/
def toFloat32 (v : Slot) (default : Float32Bits) : Float32Bits :=
  match v with
  | some (.int32 n) => .ofInt _ n.toInt
  | some (.int64 n) => .ofInt _ n.toInt
  | some (.float32 x) => x
  | some (.float64 x) => x.convert _
  | some (.string s) => (Binary.ofText? _ s).getD default
  | _ => default

/-- A slot as a 64-bit float. -/
def toFloat64 (v : Slot) (default : Float64Bits) : Float64Bits :=
  match v with
  | some (.int32 n) => .ofInt _ n.toInt
  | some (.int64 n) => .ofInt _ n.toInt
  | some (.float32 x) => x.convert _
  | some (.float64 x) => x
  | some (.string s) => (Binary.ofText? _ s).getD default
  | _ => default

/-- A slot as a truth value. Only two texts are true, exactly as they are spelt. -/
def toBool (v : Slot) (default : Bool) : Bool :=
  match v with
  | some (.bool b) => b
  | some (.int32 n) => n ≠ 0
  | some (.int64 n) => n ≠ 0
  | some (.float32 x) => !x.isZero
  | some (.float64 x) => !x.isZero
  | some (.string s) => s == "true" || s == "yes"
  | _ => default

end ScriptHost.Coercion
