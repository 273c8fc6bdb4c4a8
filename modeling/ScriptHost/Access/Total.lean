import ScriptHost.Access.Basic

/-!
# Total property access

The accessors that scripts use. They take any slot and any key, and never fail: a read that
cannot be done gives nothing, and such a write does nothing. The reason is reported as an
event, unless a read failed only because nothing is there.
-/

namespace ScriptHost.Access

/-- The property names of what a slot holds. -/
def keys (P : Protocol) (h : Heap) (object : Slot) : Option (List String) × List Event :=
  match object with
  | none => (none, [])
  | some v =>
    let r := tryKeys P h v
    match r.result with
    | .ok names => (some names, r.events)
    | .error e => (none, r.events ++ [.keysDegraded v.type e])

/-- The slot under a key of what a slot holds. -/
def get (P : Protocol) (h : Heap) (object : Slot) (key : Option String) : Slot × List Event :=
  match object, key with
  | some v, some key =>
    let r := tryGet P h v key
    match r.result with
    | .ok s => (s, r.events)
    | .error e =>
      (none, if e.isNotFound then r.events else r.events ++ [.readDegraded key v.type e])
  | _, _ => (none, [])

/-- Stores what a slot holds under a key of what another slot holds. -/
def set (P : Protocol) (h : Heap) (object : Slot) (key : Option String) (s : Slot) :
    Heap × List Event :=
  match object, key with
  | some v, some key =>
    let w := trySet P h v key s
    match w.result with
    | .ok _ => (w.heap, w.events)
    | .error e => (w.heap, w.events ++ [.writeIgnored key v.type e])
  | _, _ => (h, [])

end ScriptHost.Access
