import ScriptHost.Session.State

/-!
# Pictures

A picture shows everything that can be reached from a slot. Handles are numbered in the
order in which they are first met, and shown in full only there, so pictures of cyclic
values are finite and show what is shared. Script objects are shown by their text and
documents by the text of their node.
-/

namespace ScriptHost

/-- What a slot looks like from outside. -/
inductive Picture where
  /-- The empty slot. -/
  | absent
  /-- A scalar. -/
  | scalar (v : Value)
  /-- A handle that was shown before. -/
  | again (id : Nat)
  /-- A mapping, or that it is in use. -/
  | mapping (id : Nat) (entries : Option (List (String × Picture)))
  /-- A list, or that it is in use. -/
  | list (id : Nat) (items : Option (List Picture))
  /-- An array, or that it is in use. -/
  | array (id : Nat) (items : Option (ElementType × List Picture))
  /-- A script object. -/
  | object (id : Nat) (text : String)
  /-- A record whose properties can be listed. -/
  | record (id : Nat) (type : String) (fields : List (String × Except AccessError Picture))
  /-- A record whose properties cannot be listed. -/
  | sealed (id : Nat) (type : String) (error : AccessError)
  /-- A node of a document, and its text unless it is gone. -/
  | document (pointer : String) (text : Option String)

namespace Session

/-- Gives a handle the next number. -/
def number (v : Value) : StateM (List Value) Nat := do
  let met ← get
  set (met ++ [v])
  pure met.length

/-- The picture of a slot, at most this many handles deep. -/
def pictureWithin (P : Protocol) (h : Heap) : Nat → Slot → StateM (List Value) Picture
  | _, none => pure .absent
  | 0, some v => pure (.scalar v)
  | steps + 1, some v => do
    if let .document d := v then
      return .document d.pointer ((d.node? h).map Json.write)
    if !v.isHandle then return .scalar v
    let met ← get
    if v ∈ met then return .again (met.idxOf v)
    let id ← number v
    match v with
    | .mapping a =>
      match (h.mapping a).forReading with
      | .ok entries =>
        let entries ← entries.mapM fun (k, s) => do
          let p ← pictureWithin P h steps s
          pure (k, p)
        pure (.mapping id (some entries))
      | .error _ => pure (.mapping id none)
    | .list a =>
      match (h.list a).forReading with
      | .ok items => do
        let items ← items.mapM (pictureWithin P h steps)
        pure (.list id (some items))
      | .error _ => pure (.list id none)
    | .array a =>
      match (h.array a).forReading with
      | .ok items => do
        let slots ← items.slots.mapM (pictureWithin P h steps)
        pure (.array id (some (items.elementType, slots)))
      | .error _ => pure (.array id none)
    | .record a =>
      let type := (h.record a).content.type.name
      match (Access.tryKeys P h v).result with
      | .ok names => do
        let fields ← names.mapM fun k => do
          match (Access.tryGet P h v k).result with
          | .ok s =>
            let p ← pictureWithin P h steps s
            pure (k, .ok p)
          | .error e => pure (k, .error e)
        pure (.record id type fields)
      | .error e => pure (.sealed id type e)
    | v => pure (.object id (v.display h))

/-- The picture of a slot. -/
def picture (s : Session) (v : Slot) : Picture :=
  let h := s.heap
  let cells := h.mappings.size + h.lists.size + h.arrays.size + h.objects.size + h.records.size
  ((pictureWithin s.protocol h (cells + 2) v).run []).1

end Session

end ScriptHost
