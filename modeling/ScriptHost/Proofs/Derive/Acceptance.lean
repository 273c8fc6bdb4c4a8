import ScriptHost.Proofs.Derive.Options

/-!
# Which declarations are accepted

A declaration describes a record type exactly if it is well-formed, and then it describes what
its options and fields say; otherwise the first of its faults is reported
(`Item.accepts_exactly_wellFormed`). This holds for every reader of paths.

## The proof

Each check is shown to report the first fault on a list, and otherwise to give a result that can
be computed without looking at faults (`Outcome.reporting`). Checks that follow each other then
report the first fault of their lists put together, so that all of `Derivation.ofItem` is one
such check (`Item.ofItem_eq`). What remains is that nothing is wrong exactly with well-formed
declarations (`Item.faults_eq_nil_iff`).
-/

namespace ScriptHost

open ScriptHost.Derivation Outcome

/-! ### One mark -/

namespace Meta

/-- A mark is not well-formed if something follows its options. -/
theorem append_endFaults_ne_nil {path error : String} {options : List Meta}
    (es : List DeriveError) : es ++ (broken path options error).endFaults ≠ [] :=
  List.append_ne_nil_of_right_ne_nil _ (List.cons_ne_nil _ _)

theorem containerFaults_eq_nil_iff {paths : PathReader} {m : Meta} :
    m.containerFaults paths = [] ↔ m.ContainerMark paths := by
  cases m with
  | bare path => constructor <;> (intro hm; cases hm)
  | assign path value => constructor <;> (intro hm; cases hm)
  | broken path options error =>
    refine iff_of_false (append_endFaults_ne_nil _) ?_
    intro hm
    cases hm
  | call path options =>
    simp only [containerFaults, listFaults, endFaults, Meta.options, List.nil_append,
      List.append_nil, List.flatMap_eq_nil_iff, containerOptionFaults_eq_nil_iff]
    constructor
    · exact .call
    · rintro ⟨hoptions⟩
      exact hoptions

theorem combinesBase_eq_false_iff {path : String} {options : List Meta} :
    (call path options).combinesBase = false ↔ (bare "base" ∈ options →
      bare "readonly" ∉ options ∧ ∀ s, assign "name" (.text s) ∉ options) := by
  rw [combinesBase, Meta.options, bare_mem_iff, bare_mem_iff, ← any_name?_eq_false_iff]
  cases options.any (isWord "base") <;> simp

theorem fieldFaults_eq_nil_iff {m : Meta} : m.fieldFaults = [] ↔ m.FieldMark := by
  cases m with
  | bare path => exact iff_of_true rfl (.bare path)
  | assign path value => constructor <;> (intro hm; cases hm)
  | broken path options error =>
    refine iff_of_false ?_ ?_
    · exact List.append_ne_nil_of_left_ne_nil (append_endFaults_ne_nil _) _
    · intro hm
      cases hm
  | call path options =>
    have hcombined : (if (call path options).combinesBase then [DeriveError.baseCombined] else []) =
        [] ↔ (call path options).combinesBase = false := by
      cases (call path options).combinesBase <;> simp
    simp only [fieldFaults, listFaults, endFaults, Meta.options, List.nil_append,
      List.append_nil, List.append_eq_nil_iff, List.flatMap_eq_nil_iff,
      fieldOptionFaults_eq_nil_iff, hcombined, combinesBase_eq_false_iff]
    constructor
    · rintro ⟨hoptions, hbase⟩
      exact .call hoptions hbase
    · rintro (_ | ⟨hoptions, hbase⟩)
      exact ⟨hoptions, hbase⟩

/-- What a mark of a field says. -/
def fieldMark (m : Meta) : FieldMarker :=
  if m.options.any (isWord "base") then .base
  else .exposed ((m.options.filterMap name?).getLast?) (m.options.any (isWord "readonly"))

/-- A mark that does not stand alone says what its options do. -/
theorem marker_of_ne_bare {m : Meta} (hm : ∀ path, m ≠ bare path) :
    marker m = reporting m.fieldFaults m.fieldMark := by
  rw [marker, fieldFaults, withOptions_eq markerOption_eq, MarkerOptions.foldl_add]
  · refine reporting_bind fun _ => ?_
    rw [reporting_ite]
    simp only [combinesBase, fieldMark, Option.or_none, Bool.false_or,
      isSome_getLast?_filterMap, ← Bool.or_eq_true, ← Bool.and_eq_true, Bool.or_comm]
    rfl
  · exact hm
  · exact hm

theorem marker_eq (m : Meta) : marker m = reporting m.fieldFaults m.fieldMark := by
  cases m with
  | bare path => rfl
  | assign path value => exact marker_of_ne_bare (by simp)
  | call path options => exact marker_of_ne_bare (by simp)
  | broken path options error => exact marker_of_ne_bare (by simp)

end Meta

/-! ### The marks of a field -/

namespace ItemField

theorem faults_eq_nil_iff {f : ItemField} : f.faults = [] ↔ f.WellMarked := by
  unfold faults
  cases hm : f.marks with
  | nil =>
    refine iff_of_true rfl ⟨?_, ?_⟩
    · rw [hm]
      exact Nat.zero_le 1
    · rw [hm]
      exact List.forall_mem_nil _
  | cons m more =>
    rw [List.append_eq_nil_iff, Meta.fieldFaults_eq_nil_iff]
    constructor
    · rintro ⟨hmark, hmore⟩
      cases more with
      | nil => exact ⟨by rw [hm]; exact Nat.le_refl 1, by rwa [hm, List.forall_mem_singleton]⟩
      | cons m' more => cases hmore
    · rintro ⟨hone, hformed⟩
      rw [hm] at hone hformed
      have hmore : more = [] := by
        refine List.eq_nil_of_length_eq_zero ?_
        rw [List.length_cons] at hone
        omega
      rw [hmore]
      exact ⟨hformed m List.mem_cons_self, rfl⟩

variable (f : ItemField)

/-- What the mark of a field says, if it has a single one. -/
def mark : FieldMarker := if f.isBase then .base else .exposed f.givenName f.isReadonly

/-- A field with what its mark says, if it has a mark. -/
def marked? : Option MarkedField :=
  if f.marks.isEmpty then none else some ⟨f.ident, f.type, f.mark⟩

theorem fieldMarker_eq : fieldMarker f.attributes =
    reporting f.faults (if f.marks.isEmpty then none else some f.mark) := by
  have hmarks : (f.attributes.filter fun m => m.path = markerPath) = f.marks := rfl
  rw [fieldMarker, faults, hmarks]
  cases hm : f.marks with
  | nil => rfl
  | cons m more =>
    dsimp only
    rw [Meta.marker_eq]
    refine reporting_bind fun _ => ?_
    cases more with
    | nil =>
      have hoptions : f.options = m.options := by rw [options, hm, List.flatMap_singleton]
      rw [mark, isBase, givenName, isReadonly, hoptions]
      rfl
    | cons m' more => rfl

theorem markedFields_eq (fs : List ItemField) :
    markedFields fs = reporting (fs.flatMap faults) (fs.filterMap marked?) := by
  induction fs with
  | nil => rfl
  | cons f fs ih =>
    rw [markedFields, fieldMarker_eq, ih, List.flatMap_cons]
    refine reporting_bind fun _ => ?_
    refine reporting_bind_ok fun _ => ?_
    rw [List.filterMap_cons, marked?]
    cases f.marks.isEmpty <;> rfl

end ItemField

/-! ### Names -/

theorem filter_concat {α : Type} (p : α → Bool) (xs : List α) (x : α) :
    (xs ++ [x]).filter p = if p x then xs.filter p ++ [x] else xs.filter p := by
  rw [List.filter_append, List.filter_singleton]
  cases p x with
  | true => rfl
  | false => exact List.append_nil _

/-- What stands between the separators is all that is none. -/
theorem flatten_splitOnP {α : Type} (p : α → Bool) (xs : List α) :
    (xs.splitOnP p).flatten = xs.filter fun x => !p x := by
  induction xs with
  | nil => rfl
  | cons x xs ih =>
    rw [List.splitOnP_cons_eq_if_modifyHead]
    cases hx : p x with
    | true => simp [hx, ih]
    | false =>
      cases hxs : xs.splitOnP p with
      | nil => exact absurd hxs (List.splitOnP_ne_nil p xs)
      | cons w ws =>
        rw [hxs] at ih
        simp [hx, ← ih]

namespace ItemField

variable (type : String) (before fs : List ItemField) (f : ItemField)

/-- The description of a field is its descriptor. -/
theorem describe_eq : describe f.ident f.givenName f.isReadonly = f.descriptor := by
  have hstem : plainIdent f.ident = f.stem := by
    rw [plainIdent, stem]
    split
    · next hident => simp [hident]
    · next hident =>
      rw [if_neg]
      rintro ⟨cs, hcs⟩
      exact hident cs hcs.symm
  rw [describe, hstem]
  rfl

theorem withoutBlanks_eq : withoutBlanks f.type = f.typeText := by
  rw [withoutBlanks, typeText, flatten_splitOnP]

/-- The shape that fields give. -/
def shape : Shape where
  fields := (exposed fs).map descriptor
  base := (bases fs).head?.map fun f => (f.ident, f.typeText)

theorem exposed_concat :
    exposed (before ++ [f]) = if f.isExposed then exposed before ++ [f] else exposed before :=
  filter_concat ..

theorem bases_concat :
    bases (before ++ [f]) = if f.isBase then bases before ++ [f] else bases before :=
  filter_concat ..

theorem isBase_of_marks_eq_nil {f : ItemField} (hf : f.marks = []) : f.isBase = false := by
  rw [isBase, options, hf]
  rfl

theorem isExposed_of_isBase {f : ItemField} (hf : f.isBase = true) : f.isExposed = false := by
  rw [isExposed, hf, Bool.not_true, Bool.and_false]

/-- The shape tells whether one of the fields so far holds the ancestor. -/
theorem addField_base : addField type (shape before) ⟨f.ident, f.type, .base⟩ =
    reporting (if !(bases before).isEmpty then [.repeatedBase] else [])
      { shape before with
        base := (bases before ++ [f]).head?.map fun f => (f.ident, f.typeText) } := by
  unfold addField shape
  rw [withoutBlanks_eq]
  cases bases before <;> rfl

/-- The shape tells the names of the fields so far. -/
theorem addField_exposed :
    addField type (shape before) ⟨f.ident, f.type, .exposed f.givenName f.isReadonly⟩ =
      reporting (if f.exposedName ∈ names before then [.repeatedName f.exposedName type] else [])
        { shape before with fields := (exposed before ++ [f]).map descriptor } := by
  have hnames : (shape before).fields.map DerivedField.name = names before :=
    map_name_descriptor before
  unfold addField
  dsimp only
  rw [describe_eq, hnames, reporting_ite, List.map_append]
  rfl

/-- A field clashes with those before it, or what its mark says is added to the shape. -/
theorem addField_eq : f.marked?.toList.foldlM (addField type) (shape before) =
    reporting (clash type before f) (shape (before ++ [f])) := by
  rw [shape.eq_def (before ++ [f]), bases_concat, exposed_concat, clash, isExposed, marked?, mark]
  cases hmarks : f.marks with
  | nil =>
    rw [isBase_of_marks_eq_nil hmarks]
    rfl
  | cons m more =>
    cases f.isBase with
    | true => exact (bind_pure _).trans (addField_base type before f)
    | false => exact (bind_pure _).trans (addField_exposed type before f)

theorem foldlM_addField_eq : (fs.filterMap marked?).foldlM (addField type) (shape before) =
    reporting (clashes type before fs) (shape (before ++ fs)) := by
  induction fs generalizing before with
  | nil =>
    rw [List.append_nil]
    rfl
  | cons f fs ih =>
    have hmarked : (f :: fs).filterMap marked? = f.marked?.toList ++ fs.filterMap marked? := by
      cases hf : f.marked? with
      | none => exact List.filterMap_cons_none hf
      | some m => exact List.filterMap_cons_some hf
    rw [hmarked, List.foldlM_append, addField_eq, clashes, List.append_cons before f fs]
    exact reporting_bind fun _ => ih _

theorem distinct_iff : Distinct fs ↔ (names fs).Nodup ∧ (bases fs).length ≤ 1 := by
  constructor
  · rintro ⟨hnames, hbase⟩
    exact ⟨hnames, hbase⟩
  · rintro ⟨hnames, hbase⟩
    exact ⟨hnames, hbase⟩

/-- A field that does not clash with those before it can be added to them. -/
theorem distinct_concat_iff :
    Distinct (before ++ [f]) ↔ Distinct before ∧ clash type before f = [] := by
  rw [distinct_iff, distinct_iff, names, exposed_concat, bases_concat, clash]
  cases hbase : f.isBase with
  | true =>
    rw [isExposed_of_isBase hbase]
    cases hbases : bases before <;> simp [names]
  | false =>
    cases hexposed : f.isExposed with
    | true => simp [names, List.nodup_append, and_right_comm]
    | false => simp [names]

theorem distinct_append_iff :
    Distinct (before ++ fs) ↔ Distinct before ∧ clashes type before fs = [] := by
  induction fs generalizing before with
  | nil => rw [List.append_nil, clashes, eq_self, and_true]
  | cons f fs ih =>
    rw [List.append_cons, ih, distinct_concat_iff type, and_assoc, clashes, List.append_eq_nil_iff]

theorem clashes_eq_nil_iff {type : String} {fs : List ItemField} :
    clashes type [] fs = [] ↔ Distinct fs := by
  have hnone : Distinct [] := ⟨List.nodup_nil, Nat.zero_le 1⟩
  rw [← List.nil_append fs, distinct_append_iff type, List.nil_append, and_iff_right hnone]

end ItemField

/-! ### Declarations -/

namespace Item

variable {paths : PathReader} {item : Item}

theorem containerOptions_eq (paths : PathReader) (item : Item) :
    containerOptions paths item.attributes =
      reporting ((Meta.marks item.attributes).flatMap (Meta.containerFaults paths))
        (item.options.foldl (ContainerOptions.add paths) {}) := by
  rw [options, List.foldl_flatMap]
  exact foldlM_eq_reporting (withOptions_eq (containerOption_eq paths)) _ _

theorem namedFields_eq (item : Item) :
    namedFields item = reporting item.kindFaults item.fields := by
  rw [namedFields, kindFaults]
  cases item.kind <;> rfl

theorem kindFaults_eq_nil_iff : item.kindFaults = [] ↔ item.kind = .struct := by
  rw [kindFaults]
  cases item.kind <;> simp

theorem genericFault_eq_nil_iff :
    (if item.generics.isEmpty then [] else [DeriveError.generic]) = [] ↔ item.generics = [] := by
  cases item.generics <;> simp

/-- **A declaration reports the first of its faults, or it describes a record type.** -/
theorem ofItem_eq (paths : PathReader) (item : Item) :
    ofItem item paths = reporting (item.faults paths) (item.description paths) := by
  rw [ofItem, faults]
  simp only [List.append_assoc]
  cases item.generics.isEmpty with
  | false => rfl
  | true =>
    change (containerOptions paths item.attributes >>= _) = _
    rw [containerOptions_eq, ContainerOptions.foldl_add]
    refine reporting_bind fun _ => ?_
    rw [namedFields_eq]
    refine reporting_bind fun _ => ?_
    rw [ItemField.markedFields_eq]
    refine reporting_bind fun _ => ?_
    -- The name is the one that the options give; before them none was given.
    simp only [Option.or_none]
    change (List.foldlM (addField item.typeName) (ItemField.shape []) _ >>= _) = _
    rw [ItemField.foldlM_addField_eq]
    exact reporting_bind_ok fun _ => rfl

/-- **Nothing is wrong exactly with well-formed declarations.** -/
theorem faults_eq_nil_iff : item.faults paths = [] ↔ item.WellFormed paths := by
  simp only [faults, List.append_eq_nil_iff, genericFault_eq_nil_iff,
    kindFaults_eq_nil_iff, List.flatMap_eq_nil_iff, Meta.containerFaults_eq_nil_iff,
    ItemField.faults_eq_nil_iff, ItemField.clashes_eq_nil_iff]
  constructor
  · rintro ⟨⟨⟨⟨hgenerics, hoptions⟩, hkind⟩, hmarked⟩, hdistinct⟩
    exact ⟨hgenerics, hoptions, hkind, hmarked, hdistinct⟩
  · rintro ⟨hgenerics, hoptions, hkind, hmarked, hdistinct⟩
    exact ⟨⟨⟨⟨hgenerics, hoptions⟩, hkind⟩, hmarked⟩, hdistinct⟩

/-- **What comes of a declaration.** -/
structure Derives (paths : PathReader) (item : Item) : Prop where
  /-- Exactly the well-formed declarations are accepted. -/
  accepted : (∃ d, ofItem item paths = .ok d) ↔ item.WellFormed paths
  /-- What is accepted is described as its options and fields say. -/
  described : ∀ d, ofItem item paths = .ok d → d = item.description paths
  /-- Otherwise the first of all faults is reported. -/
  reported : ∀ e, ofItem item paths = .error e ↔ (item.faults paths).head? = some e

/-- **Exactly the well-formed declarations are accepted**, whatever reads paths. -/
theorem accepts_exactly_wellFormed (paths : PathReader) (item : Item) : item.Derives paths := by
  constructor
  · rw [← faults_eq_nil_iff]
    simp only [ofItem_eq, reporting_eq_ok_iff, exists_and_left, exists_eq, and_true]
  · intro d hd
    rw [ofItem_eq, reporting_eq_ok_iff] at hd
    exact hd.2
  · intro e
    rw [ofItem_eq, reporting_eq_error_iff]

/-- A declaration with options of every kind, some of them repeated, and a raw identifier. -/
def gallery : Item where
  kind := .struct
  ident := "Gallery"
  generics := []
  attributes := [.call "script" [.assign "name" (.text "Room"), .bare "object"], .bare "doc",
    .call "script" [.assign "name" (.text "Hall"), .assign "crate_path" (.text "crate::host")]]
  fields := [⟨"r#type", "i32", [.bare "script"]⟩, ⟨"visits", "u64", []⟩,
    ⟨"building", "Building < 'static >", [.call "script" [.bare "base"]]⟩,
    ⟨"label", "String", [.call "script" [.assign "name" (.text "title"), .bare "readonly"]]⟩]

/-- What it describes: two of its four fields, and the one that holds the ancestor. -/
def galleryRecord : Derivation where
  struct := "Gallery"
  interface := "crate::host::record::ScriptRecord"
  name := "Hall"
  scriptObject := true
  fields := [⟨"r#type", "r#type", false, "__script_read_type", "__script_write_type"⟩,
    ⟨"title", "label", true, "__script_read_label", "__script_write_label"⟩]
  base := some ("building", "Building<'static>")

/-- Read with the paths of modules, it is well-formed. -/
theorem accepts_gallery :
    gallery.WellFormed PathText.read ∧ gallery.description PathText.read = galleryRecord := by
  have hd : ofItem gallery PathText.read = .ok galleryRecord :=
    toOption_eq_some_iff.mp (by decide +kernel)
  have hderives := accepts_exactly_wellFormed PathText.read gallery
  exact ⟨hderives.accepted.mp ⟨_, hd⟩, (hderives.described _ hd).symm⟩

/-- Two fields of one name clash, whatever reads paths. -/
example (paths : PathReader) :
    ofItem { kind := .struct, ident := "Point", generics := [], attributes := [], fields := [
      ⟨"x", "f64", [.bare "script"]⟩,
      ⟨"y", "f64", [.call "script" [.assign "name" (.text "x"), .bare "readonly"]]⟩] } paths =
    .error (.repeatedName "x" "Point") := rfl

end Item

end ScriptHost
