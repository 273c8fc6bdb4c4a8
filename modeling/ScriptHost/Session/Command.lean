import ScriptHost.Session.Expression
import ScriptHost.Session.Picture

/-!
# Commands and answers

What a session can be told to do, and what it answers. Some commands run further commands
under a condition: while a cell is held, inside a context scope, where a panic is caught,
or on a thread of their own.
-/

namespace ScriptHost

/-- How a cell is held. -/
inductive HoldMode where
  /-- As one of its readers. -/
  | read
  /-- As its only writer. -/
  | write
  deriving DecidableEq, Repr

/-- What a session is told to do. -/
inductive Command where
  /-- Store a slot in a variable. -/
  | assign (name : String) (e : Expression)
  /-- Show all that a slot leads to. -/
  | dump (e : Expression)
  /-- The text of a value. -/
  | display (e : Expression)
  /-- The diagnostic text of a value. -/
  | diagnostic (e : Expression)
  /-- Compare two slots. -/
  | equal (a b : Expression)
  /-- All views of a value. -/
  | views (e : Expression)
  /-- Coerce a slot to the type of a scalar default. -/
  | coerce (e : Expression) (default : Value)
  /-- Coerce a slot to every type. -/
  | coerceAll (e : Expression) (flag : Bool)
  /-- Read a text as a 32-bit integer. -/
  | parseInt32 (text : String) (default : Int32)
  /-- Read a property. -/
  | get (object : Expression) (key : Option String) (store : Option String)
  /-- Read a property, or say why not. -/
  | tryGet (object : Expression) (key : String) (store : Option String)
  /-- Write a property. -/
  | set (object : Expression) (key : Option String) (e : Expression)
  /-- Write a property, or say why not. -/
  | trySet (object : Expression) (key : String) (e : Expression)
  /-- List the properties. -/
  | keys (object : Expression)
  /-- List the properties, or say why not. -/
  | tryKeys (object : Expression)
  /-- The number of elements. -/
  | length (object : Expression)
  /-- The kind. -/
  | kind (object : Expression)
  /-- Describe an array. -/
  | arrayInfo (array : Expression)
  /-- An element of an array. -/
  | arrayGet (array : Expression) (index : Nat)
  /-- Store an element in an array. -/
  | arrayStore (array : Expression) (index : Nat) (e : Expression)
  /-- Compare the elements of two arrays. -/
  | arrayEqual (a b : Expression)
  /-- Describe the record type of a struct. -/
  | recordType (struct : String)
  /-- Find the descriptor of a name. -/
  | lookup (struct name : String)
  /-- Apply the reader of a struct's own field to any record. -/
  | readWith (struct name : String) (receiver : Expression)
  /-- Apply the writer of a struct's own field to any record. -/
  | writeWith (struct name : String) (receiver e : Expression)
  /-- Read a field of a record. -/
  | readField (record : Expression) (name : String)
  /-- Write a field of a record. -/
  | writeField (record : Expression) (name : String) (e : Expression)
  /-- Show what a record stores. -/
  | rawFields (record : Expression)
  /-- Convert a slot to the content of a field and back. -/
  | convert (type : FieldType) (e : Expression)
  /-- Parse a document. -/
  | parse (text : String) (store : Option String)
  /-- The image of a slot in a document. -/
  | image (e : Expression) (store : Option String)
  /-- Describe a document handle. -/
  | documentInfo (document : Expression)
  /-- The root of a document. -/
  | documentRoot (document : Expression) (store : Option String)
  /-- Compare two document handles. -/
  | sameNode (a b : Expression)
  /-- Run commands while a cell is held. -/
  | withHeld (object : Expression) (mode : HoldMode) (steps : List Command)
  /-- Make a context. -/
  | newContext (name : String) (payload : Payload)
  /-- Compare two contexts. -/
  | sameContext (a b : String)
  /-- Push a context. -/
  | push (context : String)
  /-- The innermost context. -/
  | peek
  /-- Pop a context. -/
  | pop
  /-- The number of contexts in flight. -/
  | depth
  /-- Enter a scope and keep its guard under a name. -/
  | enter (guard context : String)
  /-- Drop a guard. -/
  | release (guard : String)
  /-- Run commands inside a scope. -/
  | withContext (context : String) (steps : List Command)
  /-- Give up everything up to the next catch. -/
  | panic (message : String)
  /-- Run commands, and stop a panic. -/
  | catch (steps : List Command)
  /-- Run commands in a session of their own. -/
  | thread (steps : List Command)

/-- What goes with an answer. -/
structure Report where
  /-- The events since the last collection. -/
  events : List Event
  /-- The pictures of the watched variables. -/
  watched : List (String × Picture)

/-- What a document handle looks like. -/
structure DocumentSheet where
  /-- The handle. -/
  document : Document
  /-- The text of the node, unless it is gone. -/
  text : Option String
  /-- Whether the node is an object. -/
  isNode : Bool
  /-- Whether the node is an array. -/
  isArray : Bool
  /-- The member names. -/
  names : Option (List String)
  /-- The number of items. -/
  length : Option Nat

/-- What all views of a value show. -/
structure ViewSheet where
  /-- The value. -/
  value : Value
  /-- The text. -/
  display : String
  /-- The diagnostic text. -/
  diagnostic : String
  /-- The kind. -/
  kind : Option Kind
  /-- The number of elements. -/
  length : Option Nat

/-- A slot coerced to every type. -/
structure CoercionSheet where
  string : String
  int32 : Int32
  int64 : Int64
  float32 : Float32Bits
  float64 : Float64Bits
  bool : Bool

/-- What a session answers. -/
inductive Answer where
  /-- It is done. -/
  | done
  /-- A slot. -/
  | slot (r : Option Reference)
  /-- A picture. -/
  | picture (p : Picture)
  /-- A text. -/
  | text (s : String)
  /-- Yes or no. -/
  | truth (b : Bool)
  /-- A number. -/
  | number (n : Int)
  /-- A number of elements, if there are elements. -/
  | count (n : Option Nat)
  /-- Names, if there are any to list. -/
  | names (ns : Option (List String))
  /-- An access succeeded and gave a slot. -/
  | accessed (r : Option Reference)
  /-- An access succeeded and listed names. -/
  | listed (ns : List String)
  /-- An access succeeded and stored something. -/
  | stored
  /-- A document has this text. -/
  | document (text : String)
  /-- An access failed. -/
  | failed (e : AccessError)
  /-- A text is not JSON. -/
  | unreadable (e : ParseError)
  /-- The command makes no sense. -/
  | meaningless
  /-- All views of a slot. -/
  | views (v : Option ViewSheet)
  /-- A slot coerced to every type. -/
  | coercions (c : CoercionSheet)
  /-- A kind. -/
  | kind (k : Option Kind)
  /-- An array. -/
  | array (a : FixedArray)
  /-- A record type. -/
  | recordType (t : RecordType)
  /-- A descriptor in the most derived layer, and in all. -/
  | lookup (own whole : Option FieldDescriptor)
  /-- What a record stores, by struct and identifier. -/
  | rawFields (type : String) (view : Bool) (fields : List (String × String × Option Reference))
  /-- A document handle. -/
  | documentInfo (d : DocumentSheet)
  /-- A context. -/
  | context (c : Option ContextSheet)
  /-- The number of contexts in flight. -/
  | depth (n : Nat)
  /-- A popped context, and the number of those left. -/
  | popped (c : Option ContextSheet) (depth : Nat)
  /-- A guard, and the number of contexts in flight. -/
  | guarded (g : ContextGuard) (depth : Nat)
  /-- A cell could not be held. -/
  | refused
  /-- The answers given while a cell was held. -/
  | held (results : List (Answer × Report))
  /-- The answers given in a scope or up to its end, and the number of contexts left. -/
  | scope (results : List (Answer × Report)) (depth : Nat)
  /-- A panic that was caught, and the number of contexts left. -/
  | caught (message : String) (depth : Nat)
  /-- The answers given on a thread. -/
  | thread (results : List (Answer × Report))

end ScriptHost
