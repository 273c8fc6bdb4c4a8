import ScriptHost.Document

/-!
# Images of values in documents

The JSON tree of a value: what is stored when a value is written into a document. Scalars
keep their value, mappings become objects, lists and arrays become arrays, a document
handle gives a copy of its node. Script objects, records and numbers that are not finite
have no image, and neither does a container that contains itself.

The conversion goes depth first and stops at the first obstacle. It carries the containers
that are open on the way down: meeting one of them again is a cycle, while a container met
again elsewhere is copied again. A way down without repetition is no longer than there are
containers, which bounds the recursion.
-/

namespace ScriptHost

/-- A container of slots. -/
inductive Container where
  | mapping (a : Address)
  | list (a : Address)
  | array (a : Address)
  deriving DecidableEq, Repr

namespace Container

/-- The type of a container, as a value. -/
def type : Container → ValueType
  | mapping _ => .mapping
  | list _ => .list
  | array _ => .array

/-- The hold on a container. -/
def hold (h : Heap) : Container → Hold
  | mapping a => (h.mapping a).hold
  | list a => (h.list a).hold
  | array a => (h.array a).hold

end Container

namespace Heap

/-- The number of containers. -/
def containers (h : Heap) : Nat :=
  h.mappings.size + h.lists.size + h.arrays.size

/-- Admits a container to the way down: it must not be open already, and readable. -/
def openable (h : Heap) (opened : List Container) (c : Container) : Except AccessError Unit :=
  if c ∈ opened then .error (.unrepresentable c.type)
  else if (c.hold h).readable then .ok ()
  else .error .busy

/-- The image of a float. -/
def floatImage (type : ValueType) (x : Float64Bits) : Except AccessError Json :=
  match JsonNumber.ofFloat? x with
  | some n => .ok (.number n)
  | none => .error (.unrepresentable type)

/-- The image of a slot below the open containers, on a way down of bounded length. -/
def imageWithin (h : Heap) : Nat → List Container → Slot → Except AccessError Json
  | _, _, none => .ok .null
  | _, _, some (.bool b) => .ok (.bool b)
  | _, _, some (.int32 n) => .ok (.number (.integer n.toInt))
  | _, _, some (.int64 n) => .ok (.number (.integer n.toInt))
  | _, _, some (.float32 x) => floatImage .float32 (x.convert _)
  | _, _, some (.float64 x) => floatImage .float64 x
  | _, _, some (.string s) => .ok (.string s)
  | _, _, some (.document d) => .ok ((d.node? h).getD .null)
  | _, _, some (.object _) => .error (.unrepresentable .object)
  | _, _, some (.record _) => .error (.unrepresentable .record)
  | 0, _, some v => .error (.unrepresentable v.type)
  | steps + 1, opened, some (.mapping a) => do
    h.openable opened (.mapping a)
    let members ← (h.mapping a).content.mapM fun (k, s) => do
      let j ← imageWithin h steps (.mapping a :: opened) s
      pure (k, j)
    pure (.object members)
  | steps + 1, opened, some (.list a) => do
    h.openable opened (.list a)
    let items ← (h.list a).content.mapM (imageWithin h steps (.list a :: opened))
    pure (.array items)
  | steps + 1, opened, some (.array a) => do
    h.openable opened (.array a)
    let items ← (h.array a).content.slots.mapM (imageWithin h steps (.array a :: opened))
    pure (.array items)

/-- The image of a slot; the empty slot is null. -/
def image (h : Heap) (v : Slot) : Except AccessError Json :=
  h.imageWithin (h.containers + 2) [] v

end Heap

end ScriptHost
