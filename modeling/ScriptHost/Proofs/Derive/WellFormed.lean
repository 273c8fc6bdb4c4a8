import ScriptHost.Derive.Derivation

/-!
# Well-formed declarations

What a declaration has to look like to describe a record type, which record type it then
describes, and what is wrong with it otherwise. No check is run here: an option is well-formed or
not by its form, and what a declaration says is read off all its options and all its fields at
once.

## The model

* `Meta.ContainerOption` and `Meta.FieldOption` are the options that a declaration and a field
  know. `ItemField.WellMarked` is about all marks of a field, `Item.WellFormed` about a whole
  declaration. A mark with something in its parentheses that is no option is never well-formed.
* `Item.description` is what a declaration describes. Of options that are repeated the last one
  counts.
* `Item.faults` lists everything that is wrong with a declaration in the order in which it is
  read, each part looked at on its own. Only names and ancestors clash with those before them.

All of this is relative to a reader of paths, of which nothing is assumed: a path is well-formed
if the reader takes it.
-/

namespace ScriptHost

open ScriptHost.Derivation

namespace Meta

/-- The attributes that mark a declaration or a field. -/
def marks (attributes : List Meta) : List Meta := attributes.filter fun m => m.path = "script"

/-- The options in parentheses, as far as they can be read. -/
def options : Meta → List Meta
  | call _ options | broken _ options _ => options
  | bare _ | assign _ _ => []

/-- The name that an option gives. -/
def name? : Meta → Option String
  | assign path (.text s) => if path = "name" then some s else none
  | _ => none

/-- The library that an option refers to. -/
def library? (paths : PathReader) : Meta → Option String
  | assign path (.text s) => if path = "crate_path" then (paths s).toOption else none
  | _ => none

/-- Whether an option is a word that stands alone. -/
def isWord (word : String) : Meta → Bool
  | bare path => path = word
  | assign _ _ | call _ _ | broken _ _ _ => false

/-- The options that a declaration knows. -/
inductive ContainerOption (paths : PathReader) : Meta → Prop where
  | name (s : String) : ContainerOption paths (assign "name" (.text s))
  | object : ContainerOption paths (bare "object")
  | library {text path : String} (hpath : paths text = .ok path) :
      ContainerOption paths (assign "crate_path" (.text text))

/-- A well-formed mark of a declaration lists options. -/
inductive ContainerMark (paths : PathReader) : Meta → Prop where
  | call {path : String} {options : List Meta}
      (hoptions : ∀ o ∈ options, o.ContainerOption paths) : ContainerMark paths (call path options)

/-- The options that a field knows. -/
inductive FieldOption : Meta → Prop where
  | name {s : String} (hs : s ≠ "") : FieldOption (assign "name" (.text s))
  | readonly : FieldOption (bare "readonly")
  | base : FieldOption (bare "base")

/-- A well-formed mark of a field stands alone or lists options. The option for the ancestor's
field goes with no other. -/
inductive FieldMark : Meta → Prop where
  | bare (path : String) : FieldMark (bare path)
  | call {path : String} {options : List Meta} (hoptions : ∀ o ∈ options, o.FieldOption)
      (hbase : Meta.bare "base" ∈ options →
        Meta.bare "readonly" ∉ options ∧ ∀ s, assign "name" (.text s) ∉ options) :
      FieldMark (call path options)

/-- Whether a mark combines the option for the ancestor's field with others. -/
def combinesBase (m : Meta) : Bool :=
  m.options.any (isWord "base") &&
    (m.options.any (isWord "readonly") || m.options.any fun o => o.name?.isSome)

/-- What is wrong with an option that is to be set to a text. -/
def textFaults : Meta → List DeriveError
  | assign _ (.text _) => []
  | assign _ .other => [.valueNotText]
  | assign _ .missing => [.valueEnds]
  | bare _ | call _ _ | broken _ _ _ => [.missingValue]

/-- What is wrong with an option that is to stand alone. -/
def wordFaults : Meta → List DeriveError
  | bare _ => []
  | assign _ _ | call _ _ | broken _ _ _ => [.missingComma]

/-- What is wrong with a mark that is to list options. -/
def listFaults : Meta → List DeriveError
  | call _ _ | broken _ _ _ => []
  | bare _ => [.missingArguments]
  | assign _ _ => [.missingParentheses]

/-- What is wrong behind the options of a mark. -/
def endFaults : Meta → List DeriveError
  | broken _ _ error => [.badOptions error]
  | bare _ | assign _ _ | call _ _ => []

/-- What is wrong with the path that an option is set to. -/
def pathFaults (paths : PathReader) : Meta → List DeriveError
  | assign _ (.text s) =>
    match paths s with
    | .ok _ => []
    | .error message => [.badPath message]
  | _ => []

/-- What is wrong with an option on a declaration. -/
def containerOptionFaults (paths : PathReader) (m : Meta) : List DeriveError :=
  if m.path = "name" then m.textFaults
  else if m.path = "object" then m.wordFaults
  else if m.path = "crate_path" then m.textFaults ++ m.pathFaults paths
  else [.unknownOption]

/-- What is wrong with an option on a field. -/
def fieldOptionFaults (m : Meta) : List DeriveError :=
  if m.path = "name" then m.textFaults ++ if m.name? = some "" then [.emptyName] else []
  else if m.path = "readonly" ∨ m.path = "base" then m.wordFaults
  else [.unknownMarker]

/-- What is wrong with a mark of a declaration. -/
def containerFaults (paths : PathReader) (m : Meta) : List DeriveError :=
  m.listFaults ++ m.options.flatMap (containerOptionFaults paths) ++ m.endFaults

/-- What is wrong with a mark of a field. -/
def fieldFaults : Meta → List DeriveError
  | bare _ => []
  | m =>
    m.listFaults ++ m.options.flatMap fieldOptionFaults ++ m.endFaults ++
      if m.combinesBase then [.baseCombined] else []

end Meta

namespace ItemField

variable (f : ItemField)

/-- The marks of a field. -/
def marks : List Meta := Meta.marks f.attributes

/-- The options of a field. -/
def options : List Meta := f.marks.flatMap Meta.options

/-- Whether a field holds the ancestor. -/
def isBase : Bool := f.options.any (Meta.isWord "base")

/-- Whether scripts see a field. -/
def isExposed : Bool := !f.marks.isEmpty && !f.isBase

/-- Whether scripts may only read a field. -/
def isReadonly : Bool := f.options.any (Meta.isWord "readonly")

/-- The last name that is given to a field. -/
def givenName : Option String := (f.options.filterMap Meta.name?).getLast?

/-- The name under which scripts see a field. -/
def exposedName : String := f.givenName.getD f.ident

/-- The identifier as it stands inside other identifiers: a raw one has no mark there. -/
def stem : String :=
  if "r#".toList <+: f.ident.toList then String.ofList (f.ident.toList.drop 2) else f.ident

/-- The descriptor of a field that scripts see. -/
def descriptor : DerivedField where
  name := f.exposedName
  field := f.ident
  readonly := f.isReadonly
  reader := "__script_read_" ++ f.stem
  writer := "__script_write_" ++ f.stem

/-- The type of a field: what stands between blanks, put together. -/
def typeText : String := String.ofList (f.type.toList.splitOnP Text.isBlank).flatten

/-- **A field is well marked** if it has at most one mark and that is well-formed. -/
structure WellMarked : Prop where
  atMostOne : f.marks.length ≤ 1
  formed : ∀ m ∈ f.marks, m.FieldMark

/-- What is wrong with the marks of a field. -/
def faults : List DeriveError :=
  match f.marks with
  | [] => []
  | m :: more => m.fieldFaults ++ if more.isEmpty then [] else [.repeatedMarker]

/-- The fields that scripts see. -/
def exposed (fs : List ItemField) : List ItemField := fs.filter isExposed

/-- The fields that hold an ancestor. -/
def bases (fs : List ItemField) : List ItemField := fs.filter isBase

/-- The names under which scripts see fields. -/
def names (fs : List ItemField) : List String := (exposed fs).map exposedName

theorem map_name_descriptor (fs : List ItemField) :
    ((exposed fs).map descriptor).map DerivedField.name = names fs := List.map_map

/-- **Fields do not clash**: no two have one name and no two hold an ancestor. -/
structure Distinct (fs : List ItemField) : Prop where
  names : (names fs).Nodup
  base : (bases fs).length ≤ 1

/-- What is wrong with a field because of the fields before it. -/
def clash (type : String) (before : List ItemField) (f : ItemField) : List DeriveError :=
  if f.isBase then
    if !(bases before).isEmpty then [.repeatedBase] else []
  else if f.isExposed then
    if f.exposedName ∈ names before then [.repeatedName f.exposedName type] else []
  else []

/-- What is wrong with fields because of the fields before them. -/
def clashes (type : String) : List ItemField → List ItemField → List DeriveError
  | _, [] => []
  | before, f :: fs => clash type before f ++ clashes type (before ++ [f]) fs

end ItemField

namespace Item

variable (item : Item)

/-- The options on a declaration. -/
def options : List Meta := (Meta.marks item.attributes).flatMap Meta.options

/-- The name of the record type. -/
def typeName : String := ((item.options.filterMap Meta.name?).getLast?).getD item.ident

/-- The library that the description refers to. -/
def library (paths : PathReader) : String :=
  ((item.options.filterMap (Meta.library? paths)).getLast?).getD "::otter_host"

/-- **A declaration is well-formed.** -/
structure WellFormed (paths : PathReader) : Prop where
  generics : item.generics = []
  options : ∀ m ∈ Meta.marks item.attributes, m.ContainerMark paths
  kind : item.kind = .struct
  marked : ∀ f ∈ item.fields, f.WellMarked
  distinct : ItemField.Distinct item.fields

/-- **What a declaration describes**: the exposed fields in order, and the ancestor's field. -/
def description (paths : PathReader) : Derivation where
  struct := item.ident
  interface := item.library paths ++ "::record::ScriptRecord"
  name := item.typeName
  scriptObject := item.options.any (Meta.isWord "object")
  fields := (ItemField.exposed item.fields).map ItemField.descriptor
  base := (ItemField.bases item.fields).head?.map fun f => (f.ident, f.typeText)

/-- What is wrong with the form of a declaration. -/
def kindFaults : List DeriveError :=
  match item.kind with
  | .struct => []
  | .tuple | .unit => [.unnamedFields]
  | .enum | .union => [.notStruct]

/-- **What is wrong with a declaration**, in the order in which it is read. -/
def faults (paths : PathReader) : List DeriveError :=
  (if item.generics.isEmpty then [] else [.generic]) ++
  (Meta.marks item.attributes).flatMap (Meta.containerFaults paths) ++
  item.kindFaults ++
  item.fields.flatMap ItemField.faults ++
  ItemField.clashes item.typeName [] item.fields

end Item

end ScriptHost
