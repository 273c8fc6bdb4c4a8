import ScriptHost.FixedArray
import ScriptHost.Json.Basic
import ScriptHost.Record.Instance
import ScriptHost.ScriptObject
import ScriptHost.Store

/-!
# The heap

All cells that handles lead to, one store for each sort of cell. A document tree has no
hold of its own: nothing outside this library is ever given the inside of a tree.
-/

namespace ScriptHost

/-- A record in its cell. -/
structure Record where
  /-- The type, fixed when the record is made. -/
  type : RecordType
  /-- The fields. -/
  fields : Instance
  /-- The object view, for records that answer property access through one. -/
  view : Option ScriptObject := none

instance : Inhabited Record :=
  ⟨{ type := .root ⟨"", "", [], false⟩, fields := .root ⟨"", []⟩ }⟩

instance : Inhabited FixedArray := ⟨.any []⟩

/-- The cells of a host. -/
structure Heap where
  /-- Named slots. -/
  mappings : Store (Cell (Entries Slot)) := .empty
  /-- Growable sequences of slots. -/
  lists : Store (Cell (List Slot)) := .empty
  /-- Arrays of fixed length. -/
  arrays : Store (Cell FixedArray) := .empty
  /-- Script objects. -/
  objects : Store (Cell ScriptObject) := .empty
  /-- Typed records. -/
  records : Store (Cell Record) := .empty
  /-- Document trees. -/
  trees : Store Json := .empty

namespace Heap

instance : Inhabited Heap := ⟨{}⟩

/-- The mapping at an address. -/
def mapping (h : Heap) (a : Address) : Cell (Entries Slot) := h.mappings.get a

/-- The list at an address. -/
def list (h : Heap) (a : Address) : Cell (List Slot) := h.lists.get a

/-- The array at an address. -/
def array (h : Heap) (a : Address) : Cell FixedArray := h.arrays.get a

/-- The script object at an address. -/
def object (h : Heap) (a : Address) : Cell ScriptObject := h.objects.get a

/-- The record at an address. -/
def record (h : Heap) (a : Address) : Cell Record := h.records.get a

/-- The tree at an address. -/
def tree (h : Heap) (a : Address) : Json := h.trees.get a

/-- Replaces the content of a mapping. -/
def setMapping (h : Heap) (a : Address) (content : Entries Slot) : Heap :=
  { h with mappings := h.mappings.modify a fun c => { c with content } }

/-- Replaces the content of a list. -/
def setList (h : Heap) (a : Address) (content : List Slot) : Heap :=
  { h with lists := h.lists.modify a fun c => { c with content } }

/-- Replaces the content of an array. -/
def setArray (h : Heap) (a : Address) (content : FixedArray) : Heap :=
  { h with arrays := h.arrays.modify a fun c => { c with content } }

/-- Replaces the state of a script object. -/
def setObject (h : Heap) (a : Address) (content : ScriptObject) : Heap :=
  { h with objects := h.objects.modify a fun c => { c with content } }

/-- Replaces the fields of a record. -/
def setFields (h : Heap) (a : Address) (fields : Instance) : Heap :=
  { h with records := h.records.modify a fun c => { c with content := { c.content with fields } } }

/-- Replaces the state of a record's object view. -/
def setView (h : Heap) (a : Address) (view : ScriptObject) : Heap :=
  { h with records := h.records.modify a fun c =>
      { c with content := { c.content with view := some view } } }

/-- Replaces a tree. -/
def setTree (h : Heap) (a : Address) (j : Json) : Heap :=
  { h with trees := h.trees.set a j }

/-! ### New cells -/

/-- Makes a mapping. -/
def newMapping (h : Heap) (content : Entries Slot) : Heap × Value :=
  let (mappings, a) := h.mappings.add { content }
  ({ h with mappings }, .mapping a)

/-- Makes a list. -/
def newList (h : Heap) (content : List Slot) : Heap × Value :=
  let (lists, a) := h.lists.add { content }
  ({ h with lists }, .list a)

/-- Makes an array. -/
def newArray (h : Heap) (content : FixedArray) : Heap × Value :=
  let (arrays, a) := h.arrays.add { content }
  ({ h with arrays }, .array a)

/-- Makes a script object. -/
def newObject (h : Heap) (content : ScriptObject) : Heap × Value :=
  let (objects, a) := h.objects.add { content }
  ({ h with objects }, .object a)

/-- Makes a record. -/
def newRecord (h : Heap) (content : Record) : Heap × Value :=
  let (records, a) := h.records.add { content }
  ({ h with records }, .record a)

/-- Makes a document, and a handle to its root. -/
def newDocument (h : Heap) (j : Json) : Heap × Document :=
  let (trees, a) := h.trees.add j
  ({ h with trees }, ⟨a, ""⟩)

/-! ### Holds -/

/-- The hold of the cell that a handle leads to; scalars and documents have none. -/
def hold? (h : Heap) : Value → Option Hold
  | .mapping a => some (h.mapping a).hold
  | .list a => some (h.list a).hold
  | .array a => some (h.array a).hold
  | .object a => some (h.object a).hold
  | .record a => some (h.record a).hold
  | _ => none

/-- Changes the hold of the cell that a handle leads to. -/
def changeHold (f : Hold → Hold) (h : Heap) : Value → Heap
  | .mapping a => { h with mappings := h.mappings.modify a fun c => { c with hold := f c.hold } }
  | .list a => { h with lists := h.lists.modify a fun c => { c with hold := f c.hold } }
  | .array a => { h with arrays := h.arrays.modify a fun c => { c with hold := f c.hold } }
  | .object a => { h with objects := h.objects.modify a fun c => { c with hold := f c.hold } }
  | .record a => { h with records := h.records.modify a fun c => { c with hold := f c.hold } }
  | _ => h

end Heap

end ScriptHost
