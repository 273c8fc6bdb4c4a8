import ScriptHost.Coercion
import ScriptHost.Image
import ScriptHost.Protocol

/-!
# Property access

Listing, reading and writing the properties of any value by key, with the reason when it
cannot be done. The kind of the value decides what a key means:

* a mapping holds slots under names, and takes any new name;
* a list and an array hold slots under indices; writing just behind the end of a list
  appends, and an array takes only what fits its element type;
* a script object answers by its own protocol;
* a document is read in place, and stores the image of a value;
* a record has the fields that its type exposes.

Keys of indexed values are read as numbers, and a key that is no number means the first
element. When reading, the key `length` means the number of elements instead.

A failed write leaves the heap as it was.
-/

namespace ScriptHost

/-- What reading gives, and what it reports on the way. -/
structure Reading (α : Type) where
  /-- The answer or the reason why there is none. -/
  result : Except AccessError α
  /-- The reports. -/
  events : List Event := []

/-- A reading that reports nothing. -/
def Reading.quiet {α : Type} (result : Except AccessError α) : Reading α := { result }

/-- What writing gives, the heap afterwards, and what is reported on the way. -/
structure Writing where
  /-- Why nothing was written, if so. -/
  result : Except AccessError Unit
  /-- The heap afterwards. -/
  heap : Heap
  /-- The reports. -/
  events : List Event := []

namespace Cell

variable {α : Type}

/-- The content for a reader. -/
def forReading (c : Cell α) : Except AccessError α :=
  if c.hold.readable then .ok c.content else .error .busy

/-- The content for a writer. -/
def forWriting (c : Cell α) : Except AccessError α :=
  if c.hold.writable then .ok c.content else .error .busy

end Cell

namespace Access

/-- The key that reads the number of elements. -/
def lengthKey : String := "length"

/-- The index that a key means. -/
def indexOf (key : String) : Int :=
  (Coercion.parseInt32 key 0).toInt

/-- An index as a position below a length. -/
def position (index : Int) (length : Nat) : Except AccessError Nat :=
  if 0 ≤ index ∧ index < length then .ok index.toNat else .error (.outOfRange index length)

/-- The keys of this many elements. -/
def indexKeys (length : Nat) : List String :=
  (List.range length).map Nat.repr

/-- A number of elements as a value. -/
def lengthValue (length : Nat) : Value :=
  match Numeral.narrow32? length with
  | some n => .int32 n
  | none => .int64 (Int64.ofNat length)

/-- The property names of a value. -/
def tryKeys (P : Protocol) (h : Heap) (v : Value) : Reading (List String) :=
  match v.classify h with
  | none => .quiet (.error (.noProperties v.type))
  | some (.mapping a) => .quiet ((h.mapping a).forReading.map Entries.names)
  | some (.list a) => .quiet ((h.list a).forReading.map fun items => indexKeys items.length)
  | some (.array a) => .quiet ((h.array a).forReading.map fun items => indexKeys items.size)
  | some (.scriptObject o) =>
    if (o.hold h).readable then
      match o.state? h with
      | some _ => let (names, events) := P.keys h o; { result := .ok names, events }
      | none => .quiet (.error (.noProperties .record))
    else .quiet (.error .busy)
  | some (.node d) =>
    match d.names? h with
    | some names => .quiet (.ok names)
    | none => .quiet (.error .busy)
  | some (.items d) =>
    match d.length? h with
    | some n => .quiet (.ok (indexKeys n))
    | none => .quiet (.error .busy)
  | some (.record a) => .quiet (.ok (h.record a).content.type.scriptNames)

/-- The slot under a key. The empty slot is an answer: there is a place and it holds
nothing. -/
def tryGet (P : Protocol) (h : Heap) (v : Value) (key : String) : Reading Slot :=
  match v.classify h with
  | none => .quiet (.error (.noProperties v.type))
  | some (.mapping a) => .quiet do
    let entries ← (h.mapping a).forReading
    match entries.value? key with
    | some s => .ok s
    | none => .error (.notFound key)
  | some (.list a) => .quiet do
    let items ← (h.list a).forReading
    if key = lengthKey then .ok (some (lengthValue items.length))
    else
      let i ← position (indexOf key) items.length
      .ok items[i]?.join
  | some (.array a) => .quiet do
    let items ← (h.array a).forReading
    if key = lengthKey then .ok (some (lengthValue items.size))
    else
      let i ← position (indexOf key) items.size
      .ok (items.get i)
  | some (.scriptObject o) =>
    if (o.hold h).readable then
      match o.state? h with
      | some _ => let (s, events) := P.get h o key; { result := .ok s, events }
      | none => .quiet (.ok none)
    else .quiet (.error .busy)
  | some (.node d) => .quiet (d.readMember h key)
  | some (.items d) =>
    if key = lengthKey then
      match d.length? h with
      | some n => .quiet (.ok (some (lengthValue n)))
      | none => .quiet (.error .busy)
    else .quiet (d.readItem h (indexOf key))
  | some (.record a) => .quiet do
    let r ← (h.record a).forReading
    r.fields.read r.type key

/-- The list with the slot at an index replaced, or appended just behind the end. -/
def storeItem (items : List Slot) (index : Int) (s : Slot) : Except AccessError (List Slot) :=
  if 0 ≤ index ∧ index < items.length then .ok (items.set index.toNat s)
  else if index = items.length then .ok (items ++ [s])
  else .error (.outOfRange index items.length)

/-- A write that is done in one go, or not at all. -/
def commit (h : Heap) : Except AccessError Heap → Writing
  | .ok heap => { result := .ok (), heap }
  | .error e => { result := .error e, heap := h }

/-- Writes through the protocol, with the object's cell held meanwhile. -/
def setObject (P : Protocol) (h : Heap) (o : ObjectRef) (key : String) (s : Slot) : Writing :=
  if (o.hold h).writable then
    match o.state? h with
    | some _ =>
      let (heap, events) := P.set (h.changeHold (fun _ => .exclusive) o.handle) o key s
      { result := .ok (), heap := heap.changeHold Hold.leave o.handle, events }
    | none => { result := .error (.noProperties .record), heap := h }
  else { result := .error .busy, heap := h }

/-- What becomes of a member of an object node: the image of a value, or removal. -/
def memberImage (h : Heap) (s : Slot) : Except AccessError (Option Json) :=
  match s with
  | some v => (h.image (some v)).map some
  | none => .ok none

/-- Stores what a slot holds under a key. -/
def trySet (P : Protocol) (h : Heap) (v : Value) (key : String) (s : Slot) : Writing :=
  match v.classify h with
  | none => { result := .error (.noProperties v.type), heap := h }
  | some (.mapping a) => commit h do
    let entries ← (h.mapping a).forWriting
    .ok (h.setMapping a (entries.put key s))
  | some (.list a) => commit h do
    let items ← (h.list a).forWriting
    let items ← storeItem items (indexOf key) s
    .ok (h.setList a items)
  | some (.array a) => commit h do
    let items ← (h.array a).forWriting
    let i ← position (indexOf key) items.size
    let items ← items.store i s
    .ok (h.setArray a items)
  | some (.scriptObject o) => setObject P h o key s
  | some (.node d) => commit h do
    let j ← memberImage h s
    d.writeMember h key j
  | some (.items d) => commit h do
    let j ← h.image s
    d.writeItem h (indexOf key) j
  | some (.record a) => commit h do
    let r ← (h.record a).forWriting
    let fields ← r.fields.write r.type key s
    .ok (h.setFields a fields)

/-- The number of elements of an indexed value. -/
def length (h : Heap) (v : Value) : Option Nat :=
  match v.classify h with
  | some (.list a) => (h.list a).forReading.toOption.map List.length
  | some (.array a) => (h.array a).forReading.toOption.map FixedArray.size
  | some (.items d) => d.length? h
  | _ => none

end Access

end ScriptHost
