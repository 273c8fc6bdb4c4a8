import ScriptHost.Value

/-!
# Why an access fails

Each cause of a failed property access, and the text that reports it.
-/

namespace ScriptHost

/-- What a place for values asks of the value stored there. -/
inductive Requirement where
  /-- A value of this type, or one that widens to it. -/
  | ofType (t : ValueType)
  /-- Any value, but not nothing. -/
  | present
  deriving DecidableEq, Repr

/-- The name of a requirement in messages. -/
def Requirement.name : Requirement → String
  | .ofType t => t.name
  | .present => "value"

/-- Why a single access did not read or store a value. -/
inductive AccessError where
  /-- There is no property of this name. -/
  | notFound (key : String)
  /-- The index lies outside the bounds that the operation accepts. -/
  | outOfRange (index : Int) (length : Nat)
  /-- The value does not fit its place; nothing found means that none was offered. -/
  | typeMismatch (expected : Requirement) (found : Option ValueType)
  /-- The field of this name is not for writing. -/
  | readOnly (name : String)
  /-- A value of this type has no form in a document. -/
  | unrepresentable (type : ValueType)
  /-- The cell is in use elsewhere. -/
  | busy
  /-- A field accessor of this type was applied to a record of another. -/
  | wrongReceiver (owner : String)
  /-- Values of this type have no properties at all. -/
  | noProperties (type : ValueType)
  deriving DecidableEq, Repr

namespace AccessError

/-- Whether the failure only says that nothing is there. -/
def isNotFound : AccessError → Bool
  | notFound _ | outOfRange _ _ => true
  | _ => false

/-- The text of a failure. -/
def message : AccessError → String
  | notFound key => "Property '" ++ key ++ "' not found"
  | outOfRange index length =>
    "Index " ++ index.repr ++ " out of range for length " ++ length.repr
  | typeMismatch expected found =>
    "Type mismatch: expected " ++ expected.name ++ ", found " ++
      (found.map ValueType.name).getD "absent"
  | readOnly name => "Property '" ++ name ++ "' is read-only"
  | unrepresentable type =>
    "Value of type " ++ type.name ++ " cannot be represented in this storage"
  | busy => "Host value is busy (already borrowed)"
  | wrongReceiver owner => "Descriptor for '" ++ owner ++ "' invoked on a foreign receiver"
  | noProperties type => "Values of type " ++ type.name ++ " have no properties"

end AccessError

/-- The rejection of a slot's content by a place that asks for something else. -/
def Slot.mismatch (v : Slot) (expected : Requirement) : AccessError :=
  .typeMismatch expected (v.map Value.type)

end ScriptHost
