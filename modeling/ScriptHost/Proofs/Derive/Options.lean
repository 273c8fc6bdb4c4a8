import ScriptHost.Proofs.Derive.WellFormed
import ScriptHost.Proofs.Outcome

/-!
# Options one by one

An option is judged on its own: what is wrong with it does not depend on those before it, and
nothing is wrong exactly with the options that are known (`containerOption_eq`,
`markerOption_eq`). So what a list of options says can be read off the list: for each option the
last one that gives it, or whether there is one at all (`ContainerOptions.foldl_add`,
`MarkerOptions.foldl_add`).
-/

namespace ScriptHost

open ScriptHost.Derivation Outcome

/-! ### Reading a list of options -/

namespace Meta

theorem bare_mem_iff {word : String} {options : List Meta} :
    bare word ∈ options ↔ options.any (isWord word) = true := by
  rw [List.any_eq_true]
  constructor
  · intro hmem
    exact ⟨_, hmem, decide_eq_true rfl⟩
  · rintro ⟨m, hmem, hm⟩
    cases m with
    | bare path => rwa [of_decide_eq_true hm] at hmem
    | assign _ _ => cases hm
    | call _ _ => cases hm
    | broken _ _ _ => cases hm

theorem name?_eq_some_iff {m : Meta} {s : String} :
    m.name? = some s ↔ m = assign "name" (.text s) := by
  constructor
  · intro hm
    unfold name? at hm
    split at hm
    · split at hm
      · next hpath =>
        cases hm
        rw [hpath]
      · cases hm
    · cases hm
  · rintro rfl
    rfl

theorem any_name?_eq_false_iff {options : List Meta} :
    (options.any fun o => o.name?.isSome) = false ↔ ∀ s, assign "name" (.text s) ∉ options := by
  rw [List.any_eq_false]
  constructor
  · intro hnone s hmem
    exact hnone _ hmem rfl
  · intro hnone m hmem hm
    obtain ⟨s, hs⟩ := Option.isSome_iff_exists.mp hm
    exact hnone s (name?_eq_some_iff.mp hs ▸ hmem)

end Meta

section Last

variable {α β : Type} (f : α → Option β) (x : α) (xs : List α)

/-- The last value is the last one of the rest, or else that of the first element. -/
theorem getLast?_filterMap_cons :
    ((x :: xs).filterMap f).getLast? = ((xs.filterMap f).getLast?).or (f x) := by
  cases hx : f x with
  | none => rw [List.filterMap_cons_none hx, Option.or_none]
  | some y =>
    rw [List.filterMap_cons_some hx, List.getLast?_cons]
    cases (xs.filterMap f).getLast? <;> rfl

theorem isSome_getLast?_filterMap :
    ((xs.filterMap f).getLast?).isSome = xs.any fun x => (f x).isSome := by
  induction xs with
  | nil => rfl
  | cons x xs ih => rw [getLast?_filterMap_cons, Option.isSome_or, ih, List.any_cons, Bool.or_comm]

end Last

/-! ### One option -/

namespace Meta

variable {m : Meta} {path : String}

theorem textFaults_eq_nil_iff (hpath : m.path = path) :
    m.textFaults = [] ↔ ∃ s, m = assign path (.text s) := by
  subst hpath
  rcases m with path | ⟨path, s | _ | _⟩ | path | path <;> simp [textFaults, Meta.path]

theorem wordFaults_eq_nil_iff (hpath : m.path = path) : m.wordFaults = [] ↔ m = bare path := by
  subst hpath
  cases m <;> simp [wordFaults, Meta.path]

theorem containerOptionFaults_eq_nil_iff {paths : PathReader} :
    m.containerOptionFaults paths = [] ↔ m.ContainerOption paths := by
  constructor
  · intro hm
    unfold containerOptionFaults at hm
    split at hm
    · next hpath =>
      obtain ⟨s, rfl⟩ := (textFaults_eq_nil_iff hpath).mp hm
      exact .name s
    split at hm
    · next hpath =>
      rw [(wordFaults_eq_nil_iff hpath).mp hm]
      exact .object
    split at hm
    · next hpath =>
      obtain ⟨htext, hlibrary⟩ := List.append_eq_nil_iff.mp hm
      obtain ⟨s, rfl⟩ := (textFaults_eq_nil_iff hpath).mp htext
      cases hs : paths s with
      | ok library => exact .library hs
      | error e =>
        rw [pathFaults, hs] at hlibrary
        cases hlibrary
    · cases hm
  · intro hm
    cases hm with
    | name s => rfl
    | object => rfl
    | library hpath => simp [containerOptionFaults, Meta.path, textFaults, pathFaults, hpath]

theorem fieldOptionFaults_eq_nil_iff : m.fieldOptionFaults = [] ↔ m.FieldOption := by
  constructor
  · intro hm
    unfold fieldOptionFaults at hm
    split at hm
    · next hpath =>
      obtain ⟨htext, hempty⟩ := List.append_eq_nil_iff.mp hm
      obtain ⟨s, rfl⟩ := (textFaults_eq_nil_iff hpath).mp htext
      refine .name ?_
      rintro rfl
      cases hempty
    split at hm
    · next hpath =>
      rcases hpath with hpath | hpath
      · rw [(wordFaults_eq_nil_iff hpath).mp hm]
        exact .readonly
      · rw [(wordFaults_eq_nil_iff hpath).mp hm]
        exact .base
    · cases hm
  · intro hm
    cases hm with
    | @name s hs => simp [fieldOptionFaults, Meta.path, textFaults, name?, hs]
    | readonly => rfl
    | base => rfl

/-- The text that an option is set to, if it is. -/
def text : Meta → String
  | assign _ (.text s) => s
  | _ => ""

end Meta

namespace Derivation

theorem textValue_eq (m : Meta) : textValue m = reporting m.textFaults m.text := by
  rcases m with path | ⟨path, s | _ | _⟩ | path | path <;> rfl

theorem standsAlone_eq (m : Meta) : standsAlone m = reporting m.wordFaults () := by
  cases m <;> rfl

theorem arguments_eq (m : Meta) : arguments m = reporting m.listFaults m.options := by
  cases m <;> rfl

theorem noMore_eq (m : Meta) : noMore m = reporting m.endFaults () := by
  cases m <;> rfl

/-- Options that are each judged on their own are judged one after the other, and then what
follows them. -/
theorem withOptions_eq {σ : Type} {take : σ → Meta → Except DeriveError σ}
    {wrong : Meta → List DeriveError} {add : σ → Meta → σ}
    (htake : ∀ o m, take o m = reporting (wrong m) (add o m)) (o : σ) (m : Meta) :
    withOptions take o m =
      reporting (m.listFaults ++ m.options.flatMap wrong ++ m.endFaults)
        (m.options.foldl add o) := by
  rw [withOptions, arguments_eq, List.append_assoc]
  refine reporting_bind fun _ => ?_
  rw [foldlM_eq_reporting htake]
  refine reporting_bind fun _ => ?_
  rw [noMore_eq]
  exact reporting_bind_ok fun _ => rfl

end Derivation

/-! ### On a declaration -/

namespace ContainerOptions

variable (paths : PathReader) (o : ContainerOptions)

/-- What options say with one more. -/
def add (m : Meta) : ContainerOptions where
  name := m.name?.or o.name
  object := o.object || m.isWord "object"
  library := (m.library? paths).or o.library

theorem add_name (s : String) :
    o.add paths (.assign "name" (.text s)) = { o with name := some s } := by
  simp [add, Meta.name?, Meta.isWord, Meta.library?]

theorem add_object : o.add paths (.bare "object") = { o with object := true } := by
  simp [add, Meta.name?, Meta.isWord, Meta.library?]

theorem add_library {paths : PathReader} {text path : String} (hpath : paths text = .ok path) :
    o.add paths (.assign "crate_path" (.text text)) = { o with library := some path } := by
  simp [add, Meta.name?, Meta.isWord, Meta.library?, hpath, Except.toOption]

/-- **The last of each option counts.** -/
theorem foldl_add (options : List Meta) :
    options.foldl (add paths) o =
      { name := ((options.filterMap Meta.name?).getLast?).or o.name
        object := o.object || options.any (Meta.isWord "object")
        library := ((options.filterMap (Meta.library? paths)).getLast?).or o.library } := by
  induction options generalizing o with
  | nil => simp
  | cons m options ih =>
    rw [List.foldl_cons, ih]
    simp only [add, getLast?_filterMap_cons, List.any_cons, Option.or_assoc, Bool.or_assoc]

end ContainerOptions

namespace Derivation

theorem containerOption_eq (paths : PathReader) (o : ContainerOptions) (m : Meta) :
    containerOption paths o m = reporting (m.containerOptionFaults paths) (o.add paths m) := by
  unfold containerOption Meta.containerOptionFaults
  split
  · next hpath =>
    rw [if_pos hpath, textValue_eq]
    refine reporting_bind_ok fun hm => ?_
    obtain ⟨s, rfl⟩ := (Meta.textFaults_eq_nil_iff hpath).mp hm
    rw [o.add_name paths]
    rfl
  · next hpath =>
    rw [hpath, if_neg (by decide), if_pos rfl, standsAlone_eq]
    refine reporting_bind_ok fun hm => ?_
    rw [(Meta.wordFaults_eq_nil_iff hpath).mp hm, o.add_object paths]
    rfl
  · next hpath =>
    rw [hpath, if_neg (by decide), if_neg (by decide), if_pos rfl, textValue_eq]
    refine reporting_bind fun hm => ?_
    obtain ⟨s, rfl⟩ := (Meta.textFaults_eq_nil_iff hpath).mp hm
    rw [Meta.text, Meta.pathFaults]
    cases hs : paths s with
    | error message => rfl
    | ok path =>
      rw [o.add_library hs]
      rfl
  · next hname hobject hlibrary =>
    rw [if_neg hname, if_neg hobject, if_neg hlibrary]
    rfl

/-! ### On a field -/

namespace MarkerOptions

variable (o : MarkerOptions)

/-- What options say with one more. -/
def add (m : Meta) : MarkerOptions where
  name := m.name?.or o.name
  readonly := o.readonly || m.isWord "readonly"
  base := o.base || m.isWord "base"

theorem add_name (s : String) : o.add (.assign "name" (.text s)) = { o with name := some s } := by
  simp [add, Meta.name?, Meta.isWord]

theorem add_readonly : o.add (.bare "readonly") = { o with readonly := true } := by
  simp [add, Meta.name?, Meta.isWord]

theorem add_base : o.add (.bare "base") = { o with base := true } := by
  simp [add, Meta.name?, Meta.isWord]

theorem foldl_add (options : List Meta) :
    options.foldl add o =
      { name := ((options.filterMap Meta.name?).getLast?).or o.name
        readonly := o.readonly || options.any (Meta.isWord "readonly")
        base := o.base || options.any (Meta.isWord "base") } := by
  induction options generalizing o with
  | nil => simp
  | cons m options ih =>
    rw [List.foldl_cons, ih]
    simp only [add, getLast?_filterMap_cons, List.any_cons, Option.or_assoc, Bool.or_assoc]

end MarkerOptions

theorem markerOption_eq (o : MarkerOptions) (m : Meta) :
    markerOption o m = reporting m.fieldOptionFaults (o.add m) := by
  unfold markerOption Meta.fieldOptionFaults
  split
  · next hpath =>
    rw [if_pos hpath, textValue_eq]
    refine reporting_bind fun hm => ?_
    obtain ⟨s, rfl⟩ := (Meta.textFaults_eq_nil_iff hpath).mp hm
    have hname : (Meta.assign "name" (.text s)).name? = some s := Meta.name?_eq_some_iff.mpr rfl
    rw [reporting_ite, o.add_name]
    simp only [hname, Option.some.injEq]
    rfl
  · next hpath =>
    rw [hpath, if_neg (by decide), if_pos (by decide), standsAlone_eq]
    refine reporting_bind_ok fun hm => ?_
    rw [(Meta.wordFaults_eq_nil_iff hpath).mp hm, o.add_readonly]
    rfl
  · next hpath =>
    rw [hpath, if_neg (by decide), if_pos (by decide), standsAlone_eq]
    refine reporting_bind_ok fun hm => ?_
    rw [(Meta.wordFaults_eq_nil_iff hpath).mp hm, o.add_base]
    rfl
  · next hname hreadonly hbase =>
    rw [if_neg hname, if_neg (not_or.mpr ⟨hreadonly, hbase⟩)]
    rfl

end Derivation

end ScriptHost
