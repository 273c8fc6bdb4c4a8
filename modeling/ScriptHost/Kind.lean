import ScriptHost.Document

/-!
# Kinds

The kind of a value decides how its properties are reached. It is found anew at every
access by asking guards in a fixed order; the first that accepts the value wins. The order
matters: a record that has an object view is a script object, and its fields are never
consulted.
-/

namespace ScriptHost

/-- The shapes of values with properties. -/
inductive Kind where
  | mapping | orderedList | fixedArray | scriptObject | documentNode | documentArray | typedRecord
  deriving DecidableEq, Repr

/-- The name of a kind. -/
def Kind.name : Kind → String
  | .mapping => "Mapping"
  | .orderedList => "OrderedList"
  | .fixedArray => "FixedArray"
  | .scriptObject => "ScriptObject"
  | .documentNode => "DocumentNode"
  | .documentArray => "DocumentArray"
  | .typedRecord => "TypedRecord"

/-- Whether properties are elements under an index. -/
def Kind.isIndexed : Kind → Bool
  | .orderedList | .fixedArray | .documentArray => true
  | _ => false

/-- What answers as a script object: an object of its own, or the view of a record. -/
inductive ObjectRef where
  | object (a : Address)
  | view (a : Address)
  deriving DecidableEq, Repr

/-- A value with the kind it was found to be. -/
inductive Target where
  | mapping (a : Address)
  | list (a : Address)
  | array (a : Address)
  | scriptObject (o : ObjectRef)
  | node (d : Document)
  | items (d : Document)
  | record (a : Address)
  deriving DecidableEq, Repr

/-- The kind of a target. -/
def Target.kind : Target → Kind
  | mapping _ => .mapping
  | list _ => .orderedList
  | array _ => .fixedArray
  | scriptObject _ => .scriptObject
  | node _ => .documentNode
  | items _ => .documentArray
  | record _ => .typedRecord

namespace Value

/-- The guards in order of precedence. -/
def guards : List (Heap → Value → Option Target) := [
  fun _ v => match v with
    | mapping a => some (.mapping a)
    | _ => none,
  fun _ v => match v with
    | list a => some (.list a)
    | _ => none,
  fun _ v => match v with
    | array a => some (.array a)
    | _ => none,
  fun h v => match v with
    | object a => some (.scriptObject (.object a))
    | record a =>
      if (h.record a).content.type.own.scriptObject then some (.scriptObject (.view a)) else none
    | _ => none,
  fun h v => match v with
    | document d => if d.isNode h then some (.node d) else none
    | _ => none,
  fun h v => match v with
    | document d => if d.isArray h then some (.items d) else none
    | _ => none,
  fun _ v => match v with
    | record a => some (.record a)
    | _ => none]

/-- The target of the first guard that accepts a value; scalars have none. -/
def classify (h : Heap) (v : Value) : Option Target :=
  guards.findSome? fun guard => guard h v

/-- The kind of a value; scalars have none. -/
def kind (h : Heap) (v : Value) : Option Kind :=
  (v.classify h).map Target.kind

end Value

end ScriptHost
