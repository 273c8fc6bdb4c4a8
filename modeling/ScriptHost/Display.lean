import ScriptHost.Document
import ScriptHost.Json.Printer
import ScriptHost.Number.Layout
import ScriptHost.Text.Quoted

/-!
# The text of values

Every value has a text. Containers are written out down to a fixed depth, which is also
what makes an end of cyclic ones; below that stands an ellipsis. An empty slot is written
as null at any depth. A container that a writer has open shows only its brackets.
-/

namespace ScriptHost.Value

/-- The number of levels that are written out, the outermost included. -/
def displayLevels : Nat := 9

/-- The text of a value of which this many levels are left to write out. -/
def displayWithin (h : Heap) : Nat → Value → String
  | 0, _ => "..."
  | levels + 1, v =>
    let slot : Slot → String
      | none => "null"
      | some w => displayWithin h levels w
    match v with
    | bool b => if b then "true" else "false"
    | int32 n => n.toInt.repr
    | int64 n => n.toInt.repr
    | float32 x => Layout.display.write x
    | float64 x => Layout.display.write x
    | string s => s
    | mapping a =>
      let c := h.mapping a
      if c.hold.readable then
        let entries := c.content.map fun (k, s) => k ++ ": " ++ slot s
        "\x7b" ++ String.intercalate ", " entries ++ "\x7d"
      else "\x7b...\x7d"
    | list a =>
      let c := h.list a
      if c.hold.readable then "[" ++ String.intercalate ", " (c.content.map slot) ++ "]"
      else "[...]"
    | array a =>
      let c := h.array a
      if c.hold.readable then "[" ++ String.intercalate ", " (c.content.slots.map slot) ++ "]"
      else "[...]"
    | object a =>
      let c := h.object a
      if c.hold.readable then "[object " ++ c.content.className ++ "]" else "[object]"
    | record a => "[record " ++ (h.record a).content.type.name ++ "]"
    | document d =>
      match d.node? h with
      | some j => j.write
      | none => "null"

/-- The text of a value. -/
def display (h : Heap) (v : Value) : String :=
  displayWithin h displayLevels v

/-- The diagnostic text of a value: its type, and its text in parentheses. Strings are
quoted, and floats can be told from integers. -/
def diagnostic (h : Heap) (v : Value) : String :=
  match v with
  | bool _ => "Bool(" ++ v.display h ++ ")"
  | int32 _ => "Int32(" ++ v.display h ++ ")"
  | int64 _ => "Int64(" ++ v.display h ++ ")"
  | float32 x => "Float32(" ++ Layout.diagnostic.write x ++ ")"
  | float64 x => "Float64(" ++ Layout.diagnostic.write x ++ ")"
  | string s => "String(" ++ Text.quote s ++ ")"
  | v => v.type.name ++ "(" ++ v.display h ++ ")"

end ScriptHost.Value

/-- The diagnostic text of a document handle. -/
def ScriptHost.Document.diagnostic (d : ScriptHost.Document) : String :=
  "Document \x7b pointer: " ++ ScriptHost.Text.quote d.pointer ++ ", .. \x7d"
