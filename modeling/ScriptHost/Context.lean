import ScriptHost.Event

/-!
# Execution contexts

The stack of script invocations in flight. Frames are listed oldest first, so that cutting
the stack back to a depth is taking a front part of the list.

A guard remembers only the depth at which it was entered. When it is dropped it cuts the
stack back to that depth, and takes with it whatever nested invocations left behind; a
stack that is already shorter is left alone.
-/

namespace ScriptHost

/-- What an evaluator keeps in a frame. -/
inductive Payload where
  | text (s : String)
  | number (n : Int32)
  deriving DecidableEq, Repr

/-- One invocation. Two frames are the same only if they were made together. -/
structure Frame where
  /-- Tells frames apart, whatever they hold. -/
  id : Nat
  /-- The evaluator's state. -/
  payload : Payload
  deriving DecidableEq, Repr

/-- The invocations in flight, oldest first. -/
abbrev ContextStack := List Frame

/-- A scope for one pushed frame. -/
structure ContextGuard where
  /-- The depth at which the scope was entered. -/
  baseDepth : Nat
  deriving DecidableEq, Repr

/-- The diagnostic text of a guard. -/
def ContextGuard.diagnostic (g : ContextGuard) : String :=
  "ContextGuard \x7b base_depth: " ++ g.baseDepth.repr ++ " \x7d"

namespace ContextStack

/-- The number of frames. -/
def depth (s : ContextStack) : Nat := s.length

/-- The innermost frame. -/
def peek (s : ContextStack) : Option Frame := s.getLast?

/-- Adds an innermost frame. -/
def push (s : ContextStack) (f : Frame) : ContextStack × List Event :=
  (s ++ [f], [.contextPushed (s.length + 1)])

/-- Removes the innermost frame. -/
def pop (s : ContextStack) : Option Frame × ContextStack × List Event :=
  match s.getLast? with
  | some f => (some f, s.dropLast, [.contextPopped s.dropLast.length])
  | none => (none, s, [.popOnEmpty])

/-- Pushes a frame and gives the guard of its scope. -/
def enter (s : ContextStack) (f : Frame) : ContextGuard × ContextStack × List Event :=
  let (pushed, events) := push s f
  (⟨depth s⟩, pushed, events)

/-- Drops a guard. -/
def close (s : ContextStack) (g : ContextGuard) : ContextStack × List Event :=
  let leaked := s.length - g.baseDepth - 1
  (s.take g.baseDepth,
    (if 0 < leaked then [.contextsDiscarded leaked] else []) ++ [.scopeClosed g.baseDepth])

end ContextStack

end ScriptHost
