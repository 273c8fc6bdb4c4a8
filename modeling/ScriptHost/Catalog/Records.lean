import ScriptHost.Heap

/-!
# The record types at hand

Record types with an initial instance for each: single structs and chains of them, with
renamed, hidden, read-only and redeclared fields, and some whose hand-written descriptions
do not fit their instances.
-/

namespace ScriptHost

/-- A record type together with the making of its initial instance. -/
structure Blueprint where
  /-- The record type. -/
  type : RecordType
  /-- Makes the initial fields and the cells that they refer to. -/
  fields : Heap → Heap × Instance
  /-- The initial object view, for types that have one. -/
  view : Option ScriptObject

namespace Blueprint

/-! ### Building types -/

/-- What a struct says about one field: its identifier, its exposed name, whether it is
read-only. -/
structure Marker where
  ident : String
  name : String
  readonly : Bool

/-- A field exposed under its own name. -/
def own (ident : String) : Marker := ⟨ident, ident, false⟩

/-- A field exposed under another name. -/
def renamed (ident name : String) : Marker := ⟨ident, name, false⟩

/-- A field that scripts may only read. -/
def fixed (ident : String) : Marker := ⟨ident, ident, true⟩

/-- The layer of a struct whose accessors report its type name. -/
def layer (struct name : String) (scriptObject : Bool) (markers : List Marker) : Layer where
  struct := struct
  name := name
  scriptObject := scriptObject
  fields := markers.map fun m => ⟨m.name, m.ident, m.readonly, struct, name, name⟩

/-- A struct without ancestor, under its own name. -/
def rootType (struct : String) (markers : List Marker) : RecordType :=
  .root (layer struct struct false markers)

/-- A struct with an ancestor, under its own name. -/
def derivedType (struct : String) (markers : List Marker) (field : String) (base : RecordType) :
    RecordType :=
  .extending (layer struct struct false markers) field base

/-! ### Building instances -/

/-- A bool field. -/
def bool (ident : String) (b : Bool) : StoredField := ⟨ident, .bool, b⟩

/-- A 32-bit integer field. -/
def int32 (ident : String) (n : Int32) : StoredField := ⟨ident, .int32, n⟩

/-- A 64-bit integer field. -/
def int64 (ident : String) (n : Int64) : StoredField := ⟨ident, .int64, n⟩

/-- A 32-bit float field that holds a quotient. -/
def float32 (ident : String) (num den : Nat) : StoredField :=
  ⟨ident, .float32, .ofRatio _ false num den⟩

/-- A 64-bit float field that holds a quotient. -/
def float64 (ident : String) (num den : Nat) : StoredField :=
  ⟨ident, .float64, .ofRatio _ false num den⟩

/-- A text field. -/
def string (ident : String) (s : String) : StoredField := ⟨ident, .string, s⟩

/-- An optional field that is empty. -/
def empty (ident : String) (t : FieldType) : StoredField := ⟨ident, .option t, none⟩

/-! ### Animals -/

/-- The type of animals. -/
def animalType : RecordType :=
  rootType "Animal" [own "name", own "legs", renamed "noise" "sound"]

/-- An animal. -/
def animal : Instance :=
  .root ⟨"Animal", [string "name" "generic", int32 "legs" 4,
    ⟨"noise", .option .string, some "woof"⟩, int64 "weight_grams" 12000]⟩

/-- The type of dogs. -/
def dogType : RecordType :=
  derivedType "Dog" [own "breed", renamed "nickname" "name", fixed "license", own "tricks"]
    "animal" animalType

/-- A dog that knows one trick. -/
def dog (h : Heap) : Heap × Instance :=
  let (h, tricks) := h.newList [some (.string "sit")]
  (h, .extending ⟨"Dog", [string "breed" "beagle", string "nickname" "Rex", int64 "license" 1234,
    ⟨"tricks", .value, tricks⟩]⟩ animal)

/-- The type of show dogs. -/
def showDogType : RecordType :=
  derivedType "ShowDog" [own "ribbons"] "dog" dogType

/-- A show dog. -/
def showDog (h : Heap) : Heap × Instance :=
  let (h, base) := dog h
  (h, .extending ⟨"ShowDog", [float64 "ribbons" 1 1]⟩ base)

/-! ### Vehicles and settings -/

/-- The type of vehicles. -/
def vehicleType : RecordType :=
  rootType "Vehicle" [own "wheels", renamed "max_speed" "maxSpeed"]

/-- A vehicle. -/
def vehicle : Instance :=
  .root ⟨"Vehicle", [int32 "wheels" 4, float64 "max_speed" 90 1, string "serial" "S-1"]⟩

/-- The type of trucks, which have a type name of their own. -/
def truckType : RecordType :=
  .extending (layer "HeavyTruck" "Truck" false [fixed "axles", renamed "wheel_count" "wheels"])
    "vehicle" vehicleType

/-- A truck. -/
def truck : Instance :=
  .extending ⟨"HeavyTruck", [int32 "axles" 3, int32 "wheel_count" 10]⟩ vehicle

/-- The type of settings, which answer through an object view. -/
def settingsType : RecordType :=
  .root (layer "Settings" "Settings" true [own "version"])

/-- Settings. -/
def settings : Instance :=
  .root ⟨"Settings", [int32 "version" 3]⟩

/-! ### A field of every type -/

/-- The type with a field of every type. -/
def everythingType : RecordType :=
  rootType "Everything" [own "flag", own "small", own "big", own "single", own "double", own "text",
    renamed "anything" "any", renamed "opt_bool" "optBool", renamed "opt_int" "optInt",
    renamed "opt_long" "optLong", renamed "opt_single" "optSingle",
    renamed "opt_double" "optDouble", renamed "opt_any" "optAny",
    renamed "opt_map" "optMap", renamed "opt_record" "optRecord",
    own "map", own "list", own "array", own "object", own "record", own "document",
    ⟨"frozen_list", "frozenList", true⟩]

/-- An instance with a field of every type. -/
def everything (h : Heap) : Heap × Instance :=
  let map := h.mappings.size
  let (h, _) := h.newMapping []
  let list := h.lists.size
  let (h, _) := h.newList []
  let array := h.arrays.size
  let (h, _) := h.newArray (.filled 2 .int32)
  let object := h.objects.size
  let (h, _) := h.newObject (.shouter [])
  let record := h.records.size
  let (h, _) := h.newRecord { type := animalType, fields := animal }
  let (h, document) := h.newDocument (.object [("a", .number (.integer 1))])
  let frozen := h.lists.size
  let (h, _) := h.newList [some (.int32 7)]
  (h, .root ⟨"Everything", [bool "flag" false, int32 "small" 1, int64 "big" 2, float32 "single" 1 2,
    float64 "double" 1 4, string "text" "t", ⟨"anything", .value, .int32 9⟩,
    empty "opt_bool" .bool, ⟨"opt_int", .option .int32, some (3 : Int32)⟩, empty "opt_long" .int64,
    empty "opt_single" .float32, empty "opt_double" .float64, empty "opt_any" .value,
    empty "opt_map" .mapping, empty "opt_record" .record,
    ⟨"map", .mapping, map⟩, ⟨"list", .list, list⟩, ⟨"array", .array, array⟩,
    ⟨"object", .object, object⟩, ⟨"record", .record, record⟩, ⟨"document", .document, document⟩,
    ⟨"frozen_list", .list, frozen⟩]⟩)

/-! ### Unusual names, and nothing at all -/

/-- The type without fields. -/
def emptyType : RecordType := rootType "Empty" []

/-- An instance without fields. -/
def emptyInstance : Instance := .root ⟨"Empty", []⟩

/-- The type without fields over the type without fields. -/
def hollowType : RecordType := derivedType "Hollow" [] "empty" emptyType

/-- An instance without fields over one without fields. -/
def hollow : Instance := .extending ⟨"Hollow", []⟩ emptyInstance

/-- The type whose names need care. -/
def oddType : RecordType :=
  .extending (layer "Odd" "odd type" false [own "r#type", renamed "len" "length",
    renamed "zero" "0", renamed "weird" "naïve key/~", own "empty_args",
    renamed "zed" "Zed"]) "base" emptyType

/-- An instance whose names need care. -/
def odd : Instance :=
  .extending ⟨"Odd", [int32 "r#type" 1, int32 "len" 2, string "zero" "z", bool "weird" true,
    int64 "empty_args" 3, float32 "zed" 3 2]⟩ emptyInstance

/-! ### A chain of redeclared names -/

/-- The root of the chain. -/
def level0Type : RecordType := rootType "L0" [own "v", own "a0", fixed "sealed"]

/-- The type one above the root. -/
def level1Type : RecordType :=
  derivedType "L1" [fixed "v", own "a1", own "sealed"] "l0" level0Type

/-- The type two above the root. -/
def level2Type : RecordType :=
  derivedType "L2" [own "v", renamed "shadow" "a1"] "l1" level1Type

/-- The most derived type of the chain. -/
def level3Type : RecordType := derivedType "L3" [renamed "v" "w"] "l2" level2Type

/-- An instance of the root of the chain. -/
def level0 : Instance := .root ⟨"L0", [int32 "v" 0, int32 "a0" 10, int32 "sealed" 100]⟩

/-- An instance one above the root. -/
def level1 : Instance :=
  .extending ⟨"L1", [int64 "v" 1, int64 "a1" 11, int32 "sealed" 101]⟩ level0

/-- An instance two above the root. -/
def level2 : Instance :=
  .extending ⟨"L2", [float32 "v" 5 2, string "shadow" "s"]⟩ level1

/-- An instance of the most derived type of the chain. -/
def level3 : Instance := .extending ⟨"L3", [empty "v" .float64]⟩ level2

/-! ### Hand-written descriptions -/

/-- A type that announces an ancestor which its instances cannot give. Its accessors report
different owners. -/
def brokenType : RecordType :=
  .extending
    { struct := "Broken"
      name := "Broken"
      fields := [⟨"own", "own", false, "Broken", "hand-written", "Broken"⟩]
      scriptObject := false }
    "gone" animalType

/-- An instance that has no ancestor to give. -/
def broken : Instance := .root ⟨"Broken", [int32 "own" 5]⟩

/-- A type that announces an animal as ancestor. -/
def foreignType : RecordType := derivedType "Foreign" [] "not_an_animal" animalType

/-- An instance whose ancestor is no animal. -/
def foreign : Instance := .extending ⟨"Foreign", []⟩ (.root ⟨"Stranger", []⟩)

/-- A type that announces an object view which its instances lack. -/
def phantomType : RecordType := .root (layer "Phantom" "Phantom" true [])

/-- An instance without the announced view. -/
def phantom : Instance := .root ⟨"Phantom", []⟩

/-! ### The catalogue -/

/-- The blueprint of a struct. -/
def find? : String → Option Blueprint
  | "Animal" => some ⟨animalType, fun h => (h, animal), none⟩
  | "Dog" => some ⟨dogType, dog, none⟩
  | "ShowDog" => some ⟨showDogType, showDog, none⟩
  | "Vehicle" => some ⟨vehicleType, fun h => (h, vehicle), none⟩
  | "HeavyTruck" => some ⟨truckType, fun h => (h, truck), none⟩
  | "Settings" => some ⟨settingsType, fun h => (h, settings), some (.overrides [])⟩
  | "Everything" => some ⟨everythingType, everything, none⟩
  | "Odd" => some ⟨oddType, fun h => (h, odd), none⟩
  | "Empty" => some ⟨emptyType, fun h => (h, emptyInstance), none⟩
  | "Hollow" => some ⟨hollowType, fun h => (h, hollow), none⟩
  | "L0" => some ⟨level0Type, fun h => (h, level0), none⟩
  | "L1" => some ⟨level1Type, fun h => (h, level1), none⟩
  | "L2" => some ⟨level2Type, fun h => (h, level2), none⟩
  | "L3" => some ⟨level3Type, fun h => (h, level3), none⟩
  | "Broken" => some ⟨brokenType, fun h => (h, broken), none⟩
  | "Foreign" => some ⟨foreignType, fun h => (h, foreign), none⟩
  | "Phantom" => some ⟨phantomType, fun h => (h, phantom), none⟩
  | _ => none

/-- Makes a record from a blueprint. -/
def create (b : Blueprint) (h : Heap) : Heap × Value :=
  let (h, fields) := b.fields h
  h.newRecord { type := b.type, fields, view := b.view }

end Blueprint

end ScriptHost
