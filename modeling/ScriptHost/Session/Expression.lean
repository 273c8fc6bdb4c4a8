import ScriptHost.Catalog.Records
import ScriptHost.Json.Reading

/-!
# Expressions

What commands give as values: constants, new cells, and variables. Evaluating an expression
makes its cells; a variable gives the same handle again and not a copy.
-/

namespace ScriptHost

/-- A way to obtain a slot. -/
inductive Expression where
  /-- The empty slot. -/
  | absent
  /-- A constant scalar. -/
  | constant (v : Value)
  /-- A new mapping. -/
  | mapping (entries : List (String × Expression))
  /-- A new list. -/
  | list (items : List Expression)
  /-- A new array of these elements. -/
  | array (type : ElementType) (items : List Expression)
  /-- A new array of default elements. -/
  | filled (type : ElementType) (length : Nat)
  /-- A new script object that keeps texts. -/
  | shouter
  /-- A new script object that keeps slots. -/
  | plain
  /-- A new script object that passes everything on. -/
  | proxy (target : Expression)
  /-- A new record of this struct. -/
  | record (struct : String)
  /-- The document of a text. -/
  | document (text : String)
  /-- The slot of a variable. -/
  | named (name : String)

/-- Why an expression has no value. -/
inductive EvalError where
  /-- A text is not JSON. -/
  | unreadable (e : ParseError)
  /-- There is no such variable or struct, or an element is of a wrong type. -/
  | meaningless
  deriving DecidableEq, Repr

namespace FixedArray

/-- What a view sees of slots, if it sees something of each. -/
def elements? {α : Type} (view : Value → Option α) (items : List Slot) : Option (List α) :=
  items.mapM fun s => Option.bind s view

/-- A text or the empty slot. -/
def textOrNothing? : Slot → Option (Option String)
  | none => some none
  | some v => v.asString?.map some

/-- The array of an element type with these elements, if they all are of the type. -/
def ofSlots? (items : List Slot) : ElementType → Option FixedArray
  | .bool => (elements? Value.asBool? items).map bool
  | .int32 => (elements? Value.asInt32? items).map int32
  | .int64 => (elements? Value.widenToInt64? items).map int64
  | .float32 => (elements? Value.widenToFloat32? items).map float32
  | .float64 => (elements? Value.widenToFloat64? items).map float64
  | .string => (items.mapM textOrNothing?).map string
  | .any => some (any items)

end FixedArray

namespace Expression

mutual

/-- Evaluates an expression in the scope of variables. -/
def eval (scope : Entries Slot) : Expression → Heap → Except EvalError (Heap × Slot)
  | absent, h => .ok (h, none)
  | constant v, h => .ok (h, some v)
  | mapping entries, h => do
    let (h, entries) ← evalEntries scope entries h
    let (h, v) := h.newMapping (.ofList entries)
    pure (h, some v)
  | list items, h => do
    let (h, items) ← evalAll scope items h
    let (h, v) := h.newList items
    pure (h, some v)
  | array type items, h => do
    let (h, items) ← evalAll scope items h
    match FixedArray.ofSlots? items type with
    | some a =>
      let (h, v) := h.newArray a
      pure (h, some v)
    | none => .error .meaningless
  | filled type length, h =>
    let (h, v) := h.newArray (.filled length type)
    .ok (h, some v)
  | shouter, h =>
    let (h, v) := h.newObject (.shouter [])
    .ok (h, some v)
  | plain, h =>
    let (h, v) := h.newObject (.plain [])
    .ok (h, some v)
  | proxy target, h => do
    let (h, target) ← eval scope target h
    let (h, v) := h.newObject (.proxy target)
    pure (h, some v)
  | record struct, h =>
    match Blueprint.find? struct with
    | some b =>
      let (h, v) := b.create h
      .ok (h, some v)
    | none => .error .meaningless
  | document text, h =>
    match Json.parse text with
    | .ok j =>
      let (h, d) := h.newDocument j
      .ok (h, some (.document d))
    | .error e => .error (.unreadable e)
  | named name, h =>
    match scope.value? name with
    | some s => .ok (h, s)
    | none => .error .meaningless

/-- Evaluates expressions from the first to the last. -/
def evalAll (scope : Entries Slot) : List Expression → Heap → Except EvalError (Heap × List Slot)
  | [], h => .ok (h, [])
  | e :: es, h => do
    let (h, s) ← eval scope e h
    let (h, ss) ← evalAll scope es h
    pure (h, s :: ss)

/-- Evaluates named expressions from the first to the last. -/
def evalEntries (scope : Entries Slot) :
    List (String × Expression) → Heap → Except EvalError (Heap × List (String × Slot))
  | [], h => .ok (h, [])
  | (k, e) :: es, h => do
    let (h, s) ← eval scope e h
    let (h, ss) ← evalEntries scope es h
    pure (h, (k, s) :: ss)

end

end Expression

end ScriptHost
