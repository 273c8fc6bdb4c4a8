import ScriptHost.Event
import ScriptHost.Heap
import ScriptHost.Kind

/-!
# Property protocols

How script objects answer property access. Listing and reading have shared access to the object:
they may report events but leave the heap as it is, so an object that changes other cells while it
is read has no protocol here. Writing may change any cell that nobody else has open. A write runs
while the written object's own cell is exclusively held, so that an object that reaches itself
again finds itself busy.
-/

namespace ScriptHost

namespace ObjectRef

/-- The handle to the cell that an object or view lives in. -/
def handle : ObjectRef → Value
  | object a => .object a
  | view a => .record a

/-- The state of an object; a record may lack the view that its type announces. -/
def state? (h : Heap) : ObjectRef → Option ScriptObject
  | object a => some (h.object a).content
  | view a => (h.record a).content.view

/-- Replaces the state of an object. -/
def setState (h : Heap) (s : ScriptObject) : ObjectRef → Heap
  | object a => h.setObject a s
  | view a => h.setView a s

/-- Who has the cell of an object open. -/
def hold (h : Heap) : ObjectRef → Hold
  | object a => (h.object a).hold
  | view a => (h.record a).hold

end ObjectRef

/-- How script objects list, read and write their properties. -/
structure Protocol where
  /-- The property names. -/
  keys : Heap → ObjectRef → List String × List Event
  /-- The value under a name; nothing for an unknown name. -/
  get : Heap → ObjectRef → String → Slot × List Event
  /-- Stores what a slot holds under a name, or ignores it. -/
  set : Heap → ObjectRef → String → Slot → Heap × List Event

/-- The protocol of objects that have no properties and ignore all writes. -/
def Protocol.inert : Protocol where
  keys _ _ := ([], [])
  get _ _ _ := (none, [])
  set h _ _ _ := (h, [])

end ScriptHost
