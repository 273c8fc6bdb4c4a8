import ScriptHost.Heap
import ScriptHost.Json.Pointer

/-!
# Document handles

A handle names a node by a pointer from the root of its tree, and is resolved again at each
use: it sees what other handles wrote, and leads nowhere once its node is gone. Scalars are
read as values of their own; objects and arrays are read as further handles into the tree,
so that a write through them changes the document and not a copy.
-/

namespace ScriptHost.Document

/-- The handle to the root of the same tree. -/
def root (d : Document) : Document := { d with pointer := "" }

/-- The handle one step further down. -/
def child (d : Document) (token : String) : Document :=
  { d with pointer := Pointer.extend d.pointer token }

/-- The node that a handle leads to. -/
def node? (h : Heap) (d : Document) : Option Json :=
  Pointer.resolve? (h.tree d.tree) d.pointer

/-- The members of an object node. -/
def members? (h : Heap) (d : Document) : Option (Entries Json) :=
  (d.node? h).bind Json.members?

/-- The items of an array node. -/
def items? (h : Heap) (d : Document) : Option (List Json) :=
  (d.node? h).bind Json.items?

/-- Whether the node is an object. -/
def isNode (h : Heap) (d : Document) : Bool := (d.members? h).isSome

/-- Whether the node is an array. -/
def isArray (h : Heap) (d : Document) : Bool := (d.items? h).isSome

/-- The member names of an object node in order. -/
def names? (h : Heap) (d : Document) : Option (List String) :=
  (d.members? h).map Entries.names

/-- The number of items of an array node. -/
def length? (h : Heap) (d : Document) : Option Nat :=
  (d.items? h).map List.length

/-- What is read of a child under a token: a scalar, or a handle to the child. -/
def adopt (d : Document) (token : String) : Json → Slot
  | .null => none
  | .bool b => some (.bool b)
  | .number n => some n.toValue
  | .string s => some (.string s)
  | .array _ => some (.document (d.child token))
  | .object _ => some (.document (d.child token))

/-- Reads a member of an object node. -/
def readMember (h : Heap) (d : Document) (key : String) : Except AccessError Slot :=
  match (d.members? h).bind (Entries.value? key) with
  | some j => .ok (d.adopt key j)
  | none => .error (.notFound key)

/-- Reads an item of an array node. -/
def readItem (h : Heap) (d : Document) (index : Int) : Except AccessError Slot :=
  match d.items? h with
  | none => .error (.notFound d.pointer)
  | some items =>
    if index < 0 then .error (.outOfRange index items.length)
    else
      match items[index.toNat]? with
      | some j => .ok (d.adopt index.repr j)
      | none => .error (.outOfRange index items.length)

/-- Changes the node that a handle leads to. -/
def modify (h : Heap) (d : Document) (f : Json → Json) : Heap :=
  h.setTree d.tree (Pointer.modify d.pointer f (h.tree d.tree))

/-- Stores a tree as a member of an object node, or removes the member; the last member
then takes its place. -/
def writeMember (h : Heap) (d : Document) (key : String) (j : Option Json) :
    Except AccessError Heap :=
  match d.members? h with
  | none => .error (.notFound d.pointer)
  | some members =>
    let members := match j with
      | some j => members.put key j
      | none => members.swapErase key
    .ok (d.modify h fun _ => .object members)

/-- Stores a tree as an item of an array node; the array never grows. -/
def writeItem (h : Heap) (d : Document) (index : Int) (j : Json) : Except AccessError Heap :=
  match d.items? h with
  | none => .error (.notFound d.pointer)
  | some items =>
    if index < 0 ∨ (items.length : Int) ≤ index then .error (.outOfRange index items.length)
    else .ok (d.modify h fun _ => .array (items.set index.toNat j))

end ScriptHost.Document
