import ScriptHost.Record.Field
import ScriptHost.Record.Type

/-!
# Record instances

An instance holds the fields of its struct and, inside it, the instance of its ancestor.
Field access walks down the record type and the instance side by side: a layer that
declares the name applies its accessor to the instance reached so far, and any other layer
steps on to the ancestor. Accessors check the struct of the instance they are given.
-/

namespace ScriptHost

/-- The fields that one struct stores, exposed or not. -/
structure Part where
  /-- The struct. -/
  struct : String
  /-- The fields without the ancestor. -/
  fields : List StoredField

/-- A record instance. -/
inductive Instance where
  /-- An instance without ancestor. -/
  | root (own : Part)
  /-- An instance with its ancestor. -/
  | extending (own : Part) (base : Instance)

namespace Part

/-- The field of this identifier. -/
def field? (p : Part) (ident : String) : Option StoredField :=
  p.fields.find? fun f => f.ident = ident

/-- Replaces the field of the same identifier. -/
def replace (p : Part) (f : StoredField) : Part :=
  { p with fields := p.fields.map fun g => if g.ident = f.ident then f else g }

end Part

namespace Instance

/-- The part of the most derived struct. -/
def own : Instance → Part
  | root p => p
  | extending p _ => p

/-- The instance with another part of the most derived struct. -/
def withOwn (p : Part) : Instance → Instance
  | root _ => root p
  | extending _ base => extending p base

/-- The parts, most derived first. -/
def parts : Instance → List Part
  | root p => [p]
  | extending p base => p :: parts base

/-- The field that a descriptor is about, if the instance is of the descriptor's struct. -/
def target? (i : Instance) (d : FieldDescriptor) : Option StoredField :=
  if i.own.struct = d.struct then i.own.field? d.field else none

/-- Applies the reader of a descriptor. -/
def readWith (i : Instance) (d : FieldDescriptor) : Except AccessError Slot :=
  match i.target? d with
  | some f => .ok f.read
  | none => .error (.wrongReceiver d.readerOwner)

/-- Applies the writer of a descriptor; that of a read-only field refuses every instance. -/
def writeWith (i : Instance) (d : FieldDescriptor) (v : Slot) : Except AccessError Instance :=
  if d.readonly then .error (.readOnly d.name)
  else
    match i.target? d with
    | some f => (f.write v).map fun g => i.withOwn (i.own.replace g)
    | none => .error (.wrongReceiver d.writerOwner)

/-- Reads the field that a name is resolved to. -/
def read : RecordType → Instance → String → Except AccessError Slot
  | .root layer, i, name =>
    match (RecordType.root layer).ownField? name with
    | some d => i.readWith d
    | none => .error (.notFound name)
  | .extending layer field base, i, name =>
    match (RecordType.extending layer field base).ownField? name with
    | some d => i.readWith d
    | none =>
      match i with
      | extending p ancestor =>
        if p.struct = layer.struct then read base ancestor name
        else .error (.wrongReceiver layer.name)
      | root _ => .error (.wrongReceiver layer.name)

/-- Replaces the content of the field that a name is resolved to. -/
def write : RecordType → Instance → String → Slot → Except AccessError Instance
  | .root layer, i, name, v =>
    match (RecordType.root layer).ownField? name with
    | some d => i.writeWith d v
    | none => .error (.notFound name)
  | .extending layer field base, i, name, v =>
    match (RecordType.extending layer field base).ownField? name with
    | some d => i.writeWith d v
    | none =>
      match i with
      | extending p ancestor =>
        if p.struct = layer.struct then (write base ancestor name v).map (extending p)
        else .error (.wrongReceiver layer.name)
      | root _ => .error (.wrongReceiver layer.name)

end Instance

end ScriptHost
