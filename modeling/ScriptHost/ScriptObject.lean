import ScriptHost.Value

/-!
# Script objects

Hosts whose values answer property access themselves. What such an object remembers is its
state; how each kind of object answers is given by a property protocol (see `Protocol`). Hosts
add classes of their own, so there is an object for every class name (`ScriptObject.other`).
-/

namespace ScriptHost

/-- The state of a script object, by its class. -/
inductive ScriptObject where
  /-- Keeps the texts of what is stored and reads them in capitals. -/
  | shouter (texts : Entries String)
  /-- Keeps what is stored, empty slots included. -/
  | plain (slots : Entries Slot)
  /-- Passes everything on to a target. -/
  | proxy (target : Slot)
  /-- Keeps values over the settings of a record. -/
  | overrides (values : Entries Value)
  /-- An object of another class, with what that class has it remember. -/
  | other (className : String) (slots : Entries Slot)
  deriving DecidableEq, Repr

namespace ScriptObject

instance : Inhabited ScriptObject := ⟨plain []⟩

/-- The class name that stands in the text of an object. -/
def className : ScriptObject → String
  | shouter _ => "Shouter"
  | plain _ => "Object"
  | proxy _ => "Proxy"
  | overrides _ => "Object"
  | other className _ => className

end ScriptObject

end ScriptHost
