import ScriptHost.Text.Quoted

/-!
# Record types

The part of a record that scripts see. Each struct on the way from a record to its root
ancestor is a layer, with descriptors of the fields it exposes; an exposed name need not be
the field's identifier. Names are searched from the most derived layer to the root, and the
first descriptor found wins, so a name declared again in a derived layer hides the older one.
-/

namespace ScriptHost

/-- One exposed field. -/
structure FieldDescriptor where
  /-- The name that scripts use. -/
  name : String
  /-- The identifier of the field. -/
  field : String
  /-- Whether scripts may only read the field. -/
  readonly : Bool
  /-- The struct whose instances the accessors work on. -/
  struct : String
  /-- The type that the reader reports when it is applied to an instance of another struct. -/
  readerOwner : String
  /-- The type that the writer reports when it is applied to an instance of another struct. -/
  writerOwner : String
  deriving DecidableEq, Repr

/-- What one struct contributes to a record type. -/
structure Layer where
  /-- The struct. -/
  struct : String
  /-- The type name. -/
  name : String
  /-- The exposed fields in order of declaration. -/
  fields : List FieldDescriptor
  /-- Whether instances answer property access through an object view of their own. -/
  scriptObject : Bool
  deriving DecidableEq, Repr

/-- The script-visible shape of a record. -/
inductive RecordType where
  /-- A type without ancestor. -/
  | root (own : Layer)
  /-- A type whose instances hold an ancestor in a field. -/
  | extending (own : Layer) (field : String) (base : RecordType)
  deriving DecidableEq, Repr

namespace FieldDescriptor

/-- The diagnostic text of a descriptor. -/
def diagnostic (d : FieldDescriptor) : String :=
  "FieldDescriptor \x7b name: " ++ Text.quote d.name ++ ", field: " ++ Text.quote d.field ++
    ", readonly: " ++ (if d.readonly then "true" else "false") ++ " \x7d"

end FieldDescriptor

namespace RecordType

/-- The layer of the most derived struct. -/
def own : RecordType → Layer
  | root layer => layer
  | extending layer _ _ => layer

/-- The type name. -/
def name (t : RecordType) : String := t.own.name

/-- The type without its most derived layer. -/
def base? : RecordType → Option RecordType
  | root _ => none
  | extending _ _ base => some base

/-- The type and its ancestors, most derived first. -/
def lineage : RecordType → List RecordType
  | t@(root _) => [t]
  | t@(extending _ _ base) => t :: lineage base

/-- The descriptor of a name in the most derived layer. -/
def ownField? (t : RecordType) (name : String) : Option FieldDescriptor :=
  t.own.fields.find? fun d => d.name = name

/-- The descriptor that a name is resolved to. -/
def lookup? (t : RecordType) (name : String) : Option FieldDescriptor :=
  t.lineage.findSome? fun s => s.ownField? name

/-- Adds a name to names in increasing order, unless it is there. -/
def insertName (name : String) : List String → List String
  | [] => [name]
  | n :: ns =>
    if name < n then name :: n :: ns
    else if name = n then n :: ns
    else n :: insertName name ns

/-- Names in increasing order, each once. -/
def sortNames (names : List String) : List String :=
  names.foldr insertName []

/-- All exposed names of a type and its ancestors, in increasing order. -/
def scriptNames (t : RecordType) : List String :=
  sortNames (t.lineage.flatMap fun s => s.own.fields.map FieldDescriptor.name)

/-- The diagnostic text of a record type. -/
def diagnostic (t : RecordType) : String :=
  let fields := String.intercalate ", " (t.own.fields.map FieldDescriptor.diagnostic)
  let base := match t with
    | root _ => "None"
    | extending _ field base =>
      "Some(BaseLink \x7b field: " ++ Text.quote field ++ ", record_type: " ++
        Text.quote base.name ++ " \x7d)"
  "RecordType \x7b name: " ++ Text.quote t.name ++ ", fields: [" ++ fields ++ "], base: " ++ base ++
    ", script_object: " ++ (if t.own.scriptObject then "true" else "false") ++ " \x7d"

end RecordType

end ScriptHost
