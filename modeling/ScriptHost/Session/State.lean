import ScriptHost.Catalog.Objects
import ScriptHost.Context

/-!
# Sessions

The state that commands work on: the heap, the variables that name slots, the contexts and
guards that have names, the stack of contexts, and the events that nobody has collected yet.
A session starts with nothing.
-/

namespace ScriptHost

/-- The state of a session. -/
structure Session where
  /-- The cells of the host. -/
  heap : Heap := {}
  /-- The named slots. -/
  scope : Entries Slot := []
  /-- The named contexts. -/
  contexts : Entries Frame := []
  /-- The number of contexts made so far, which is also the identity of the next one. -/
  contextCount : Nat := 0
  /-- The named guards of open scopes. -/
  guards : Entries ContextGuard := []
  /-- The contexts in flight. -/
  stack : ContextStack := []
  /-- The events since the last collection. -/
  events : List Event := []

/-- A value together with the names of the variables that hold it. -/
structure Reference where
  /-- The value. -/
  value : Value
  /-- The variables in increasing order of their names; scalars have none. -/
  holders : List String

/-- A context together with its names. -/
structure ContextSheet where
  /-- The names in increasing order. -/
  names : List String
  /-- What the context holds. -/
  payload : Payload

namespace Session

/-- The protocol of script objects in this session. -/
def protocol (s : Session) : Protocol :=
  .standard s.heap

/-- The names in increasing order of the entries that satisfy a test. -/
def namesOf {α : Type} (test : α → Bool) (es : Entries α) : List String :=
  RecordType.sortNames ((es.filter fun e => test e.2).map Prod.fst)

/-- A slot with the names of what it holds. -/
def reference (s : Session) (v : Slot) : Option Reference :=
  v.map fun v => {
    value := v
    holders :=
      if v.isHandle then namesOf (fun w => Slot.same (some v) w) s.scope else [] }

/-- A context with its names. -/
def contextSheet (s : Session) (f : Frame) : ContextSheet where
  names := namesOf (fun g => g.id == f.id) s.contexts
  payload := f.payload

end Session

end ScriptHost
