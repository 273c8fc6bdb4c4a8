import ScriptHost.Derive.Item
import ScriptHost.Derive.PathText
import ScriptHost.Record.Type

/-!
# Deriving record types

A declaration whose fields are marked for scripts describes a record type. The checks are
made in a fixed order and the first that fails is reported: generic parameters, options on
the declaration, the form of the declaration, the marks of all fields, and then, field by
field, repeated names and further ancestors.

Options are checked where they are met. An unknown option is rejected before anything that
follows it is looked at.

Which texts are paths is not decided here: the reader of paths is a parameter.
-/

namespace ScriptHost

/-- A reader of paths: the path that a text is, as descriptions refer to it, or what is said about
a text that is none. -/
abbrev PathReader := String → Except String String

/-- Why a declaration describes no record type. -/
inductive DeriveError where
  | generic
  | unnamedFields
  | notStruct
  | unknownOption
  | unknownMarker
  | emptyName
  | repeatedMarker
  | baseCombined
  | repeatedName (name : String) (type : String)
  | repeatedBase
  | missingValue
  | valueNotText
  | valueEnds
  | missingComma
  | missingArguments
  | missingParentheses
  | badPath (message : String)
  | badOptions (message : String)
  deriving DecidableEq, Repr

/-- The text of a failure. -/
def DeriveError.message : DeriveError → String
  | generic => "ScriptRecord cannot be derived for generic types"
  | unnamedFields => "ScriptRecord derive only supports structs with named fields"
  | notStruct => "ScriptRecord derive only supports structs"
  | unknownOption => "unknown option. Expected 'name', 'object' or 'crate_path'."
  | unknownMarker => "unknown marker option. Expected 'name', 'readonly' or 'base'."
  | emptyName => "script property name cannot be empty"
  | repeatedMarker => "a field can carry only one #[script] marker"
  | baseCombined => "#[script(base)] cannot be combined with 'name' or 'readonly'"
  | repeatedName name type => "script property '" ++ name ++ "' is declared twice on " ++ type
  | repeatedBase => "only one field can be marked #[script(base)]"
  | missingValue => "expected `=`"
  | valueNotText => "expected string literal"
  | valueEnds => "unexpected end of input, expected string literal"
  | missingComma => "expected `,`"
  | missingArguments => "expected attribute arguments in parentheses: #[script(...)]"
  | missingParentheses => "expected parentheses: #[script(...)]"
  | badPath message => message
  | badOptions message => message

/-- The attribute that marks declarations and fields. -/
def markerPath : String := "script"

/-- The options on a declaration. -/
structure ContainerOptions where
  /-- The type name. -/
  name : Option String := none
  /-- Whether instances answer through an object view. -/
  object : Bool := false
  /-- The path of the library that the description refers to. -/
  library : Option String := none
  deriving DecidableEq, Repr

/-- The mark of a field. -/
inductive FieldMarker where
  /-- Scripts see the field, under another name if one is given. -/
  | exposed (name : Option String) (readonly : Bool)
  /-- The field holds the ancestor. -/
  | base
  deriving DecidableEq, Repr

/-- A marked field. -/
structure MarkedField where
  ident : String
  type : String
  marker : FieldMarker

/-- One field of a derived record type. -/
structure DerivedField where
  /-- The exposed name. -/
  name : String
  /-- The identifier. -/
  field : String
  /-- Whether scripts may only read the field. -/
  readonly : Bool
  /-- The name of the reader function. -/
  reader : String
  /-- The name of the writer function. -/
  writer : String
  deriving DecidableEq, Repr

/-- What a declaration says about a record type. -/
structure Derivation where
  /-- The struct. -/
  struct : String
  /-- The path of the interface that is implemented. -/
  interface : String
  /-- The type name. -/
  name : String
  /-- Whether instances answer through an object view. -/
  scriptObject : Bool
  /-- The exposed fields in order of declaration. -/
  fields : List DerivedField
  /-- The field that holds the ancestor, and its type. -/
  base : Option (String × String)
  deriving DecidableEq, Repr

namespace Derivation

/-! ### Options -/

/-- The text that an option is set to. -/
def textValue : Meta → Except DeriveError String
  | .assign _ (.text s) => .ok s
  | .assign _ .other => .error .valueNotText
  | .assign _ .missing => .error .valueEnds
  | .bare _ | .call _ _ | .broken _ _ _ => .error .missingValue

/-- Checks that an option stands alone. -/
def standsAlone : Meta → Except DeriveError Unit
  | .bare _ => .ok ()
  | .assign _ _ | .call _ _ | .broken _ _ _ => .error .missingComma

/-- The options inside an attribute that needs them. -/
def arguments : Meta → Except DeriveError (List Meta)
  | .call _ options | .broken _ options _ => .ok options
  | .bare _ => .error .missingArguments
  | .assign _ _ => .error .missingParentheses

/-- Checks that nothing follows the options inside an attribute. -/
def noMore : Meta → Except DeriveError Unit
  | .broken _ _ error => .error (.badOptions error)
  | .bare _ | .assign _ _ | .call _ _ => .ok ()

/-- Takes the options inside an attribute into account, one after the other. -/
def withOptions {σ : Type} (take : σ → Meta → Except DeriveError σ) (o : σ) (m : Meta) :
    Except DeriveError σ := do
  let options ← arguments m
  let o ← options.foldlM take o
  noMore m
  pure o

/-- Takes one option on a declaration into account. -/
def containerOption (paths : PathReader) (o : ContainerOptions) (m : Meta) :
    Except DeriveError ContainerOptions :=
  match m.path with
  | "name" => do
    let name ← textValue m
    pure { o with name := some name }
  | "object" => do
    standsAlone m
    pure { o with object := true }
  | "crate_path" => do
    let text ← textValue m
    match paths text with
    | .ok path => pure { o with library := some path }
    | .error e => .error (.badPath e)
  | _ => .error .unknownOption

/-- The options on a declaration; the last of each counts. -/
def containerOptions (paths : PathReader) (attributes : List Meta) :
    Except DeriveError ContainerOptions :=
  (attributes.filter fun m => m.path = markerPath).foldlM (withOptions (containerOption paths)) {}

/-- What the options of a field's marker say so far. -/
structure MarkerOptions where
  name : Option String := none
  readonly : Bool := false
  base : Bool := false
  deriving DecidableEq, Repr

/-- Takes one option of a field's marker into account. -/
def markerOption (o : MarkerOptions) (m : Meta) : Except DeriveError MarkerOptions :=
  match m.path with
  | "name" => do
    let name ← textValue m
    if name = "" then .error .emptyName else pure { o with name := some name }
  | "readonly" => do
    standsAlone m
    pure { o with readonly := true }
  | "base" => do
    standsAlone m
    pure { o with base := true }
  | _ => .error .unknownMarker

/-- The mark that one attribute makes. -/
def marker : Meta → Except DeriveError FieldMarker
  | .bare _ => .ok (.exposed none false)
  | m => do
    let o ← withOptions markerOption {} m
    if o.base ∧ (o.name.isSome ∨ o.readonly) then .error .baseCombined
    else pure (if o.base then .base else .exposed o.name o.readonly)

/-- The mark of a field, if it has one. -/
def fieldMarker (attributes : List Meta) : Except DeriveError (Option FieldMarker) :=
  match attributes.filter fun m => m.path = markerPath with
  | [] => .ok none
  | m :: more => do
    let mark ← marker m
    if more.isEmpty then pure (some mark) else .error .repeatedMarker

/-- The marked fields in order; the first field whose mark is at fault is reported. -/
def markedFields : List ItemField → Except DeriveError (List MarkedField)
  | [] => .ok []
  | f :: fs => do
    let mark ← fieldMarker f.attributes
    let rest ← markedFields fs
    match mark with
    | some marker => pure (⟨f.ident, f.type, marker⟩ :: rest)
    | none => pure rest

/-! ### Names -/

/-- An identifier without the mark of a raw one. -/
def plainIdent (ident : String) : String :=
  match ident.toList with
  | 'r' :: '#' :: cs => String.ofList cs
  | _ => ident

/-- A text without blanks. -/
def withoutBlanks (text : String) : String :=
  String.ofList (text.toList.filter fun c => !Text.isBlank c)

/-- The description of an exposed field. -/
def describe (ident : String) (name : Option String) (readonly : Bool) : DerivedField where
  name := name.getD ident
  field := ident
  readonly := readonly
  reader := "__script_read_" ++ plainIdent ident
  writer := "__script_write_" ++ plainIdent ident

/-- What the fields looked at so far contribute. -/
structure Shape where
  /-- The exposed fields. -/
  fields : List DerivedField := []
  /-- The field that holds the ancestor, and its type. -/
  base : Option (String × String) := none

/-- Adds one marked field to a shape. -/
def addField (type : String) (shape : Shape) (f : MarkedField) : Except DeriveError Shape :=
  match f.marker with
  | .base =>
    if shape.base.isSome then .error .repeatedBase
    else .ok { shape with base := some (f.ident, withoutBlanks f.type) }
  | .exposed name readonly =>
    let field := describe f.ident name readonly
    if field.name ∈ shape.fields.map DerivedField.name then .error (.repeatedName field.name type)
    else .ok { shape with fields := shape.fields ++ [field] }

/-- The fields of a struct with named fields. -/
def namedFields (item : Item) : Except DeriveError (List ItemField) :=
  match item.kind with
  | .struct => .ok item.fields
  | .tuple | .unit => .error .unnamedFields
  | .enum | .union => .error .notStruct

/-- The library that descriptions refer to unless an option names another. -/
def defaultLibrary : String := "::otter_host"

/-- What a declaration says about a record type. -/
def ofItem (item : Item) (paths : PathReader := PathText.read) :
    Except DeriveError Derivation := do
  if !item.generics.isEmpty then throw .generic
  let options ← containerOptions paths item.attributes
  let fields ← namedFields item
  let marked ← markedFields fields
  let type := options.name.getD item.ident
  let shape ← marked.foldlM (addField type) {}
  pure {
    struct := item.ident
    interface := options.library.getD defaultLibrary ++ "::record::ScriptRecord"
    name := type
    scriptObject := options.object
    fields := shape.fields
    base := shape.base }

/-- The layer that a derivation describes: its accessors work on the struct and report the
type name. -/
def layer (d : Derivation) : Layer where
  struct := d.struct
  name := d.name
  scriptObject := d.scriptObject
  fields := d.fields.map fun f => ⟨f.name, f.field, f.readonly, d.struct, d.name, d.name⟩

end Derivation

end ScriptHost
