import ScriptHost.AccessError

/-!
# Events

What the library reports while it works: accesses that were degraded to nothing, and the
comings and goings of execution contexts.
-/

namespace ScriptHost

/-- How important an event is. -/
inductive EventLevel where
  | trace | debug
  deriving DecidableEq, Repr

/-- The name of a level. -/
def EventLevel.name : EventLevel → String
  | .trace => "TRACE"
  | .debug => "DEBUG"

/-- Something worth reporting. -/
inductive Event where
  /-- A read failed for another reason than that nothing is there. -/
  | readDegraded (key : String) (type : ValueType) (error : AccessError)
  /-- A write was not performed. -/
  | writeIgnored (key : String) (type : ValueType) (error : AccessError)
  /-- The property names could not be listed. -/
  | keysDegraded (type : ValueType) (error : AccessError)
  /-- A context was pushed; the depth is that afterwards. -/
  | contextPushed (depth : Nat)
  /-- A context was popped; the depth is that afterwards. -/
  | contextPopped (depth : Nat)
  /-- There was no context to pop. -/
  | popOnEmpty
  /-- A scope ended and took this many contexts with it besides its own. -/
  | contextsDiscarded (leaked : Nat)
  /-- A scope ended; the depth is that at which it was opened. -/
  | scopeClosed (depth : Nat)
  deriving DecidableEq, Repr

/-- A part of an event. -/
inductive EventField where
  | text (s : String)
  | count (n : Nat)
  deriving DecidableEq, Repr

namespace Event

/-- How important an event is. -/
def level : Event → EventLevel
  | popOnEmpty | contextsDiscarded _ => .debug
  | _ => .trace

/-- The text of an event. -/
def message : Event → String
  | readDegraded .. => "property read degraded to absent"
  | writeIgnored .. => "property write ignored"
  | keysDegraded .. => "key enumeration degraded to absent"
  | contextPushed _ => "execution context pushed"
  | contextPopped _ => "execution context popped"
  | popOnEmpty => "pop on an empty execution context stack"
  | contextsDiscarded _ => "discarded execution contexts left on the stack"
  | scopeClosed _ => "execution context scope closed"

/-- The named parts of an event. -/
def fields : Event → List (String × EventField)
  | readDegraded key type error =>
    [("key", .text key), ("kind", .text type.name), ("error", .text error.message)]
  | writeIgnored key type error =>
    [("key", .text key), ("kind", .text type.name), ("error", .text error.message)]
  | keysDegraded type error => [("kind", .text type.name), ("error", .text error.message)]
  | contextPushed depth => [("depth", .count depth)]
  | contextPopped depth => [("depth", .count depth)]
  | popOnEmpty => []
  | contextsDiscarded leaked => [("leaked", .count leaked)]
  | scopeClosed depth => [("depth", .count depth)]

end Event

end ScriptHost
