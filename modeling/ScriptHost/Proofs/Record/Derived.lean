import ScriptHost.Catalog.Records
import ScriptHost.Proofs.Derive.Layer
import ScriptHost.Proofs.Record.Names
import ScriptHost.Proofs.Record.Resolve

/-!
# Records of derived types

Where every layer of a record type is derived from the declaration of its struct, an access
reaches the field that the most derived declaration of the name is about, in the ancestor
that it belongs to, and nothing else (`Instance.derived_access`).

## The model

`Instance.Derived t i` says that each layer of `t` comes from a declaration that is accepted,
and that `i` stores at each layer the fields of that declaration. The layers are numbered
from the most derived one; `Instance.parts` has the stored fields under the same numbers.
`Instance.Accepted t i` says less, and also of types that are not derived: no layer of `t`
refuses `i` on the way down.
-/

namespace ScriptHost

open Outcome

/-! ### Lists without repetition -/

section Distinct

variable {α β : Type} [DecidableEq β] {f : α → β} {xs : List α} {x : α}

/-- Where keys are distinct, the first element with a key is the only one. -/
theorem find?_of_nodup_map (hxs : (xs.map f).Nodup) (hx : x ∈ xs) :
    xs.find? (fun y => f y = f x) = some x := by
  induction xs with
  | nil => cases hx
  | cons y ys ih =>
    obtain ⟨hy, hys⟩ := List.nodup_cons.mp hxs
    rcases List.mem_cons.mp hx with rfl | hx
    · exact List.find?_cons_of_pos (by simp)
    · have hne : f y ≠ f x := fun heq => hy (heq ▸ List.mem_map_of_mem hx)
      rw [List.find?_cons_of_neg (by simpa using hne)]
      exact ih hys hx

/-- Where keys are distinct, replacing what has a key replaces one element. -/
theorem map_ite_eq_set {j : Nat} (hxs : (xs.map f).Nodup) (hj : xs[j]? = some x) (g : α) :
    xs.map (fun y => if f y = f x then g else y) = xs.set j g := by
  refine List.ext_getElem? fun k => ?_
  rw [List.getElem?_map, List.getElem?_set]
  split
  · next hjk =>
    subst hjk
    rw [hj, Option.map_some, if_pos rfl, if_pos (List.getElem?_eq_some_iff.mp hj).1]
  · next hjk =>
    cases hk : xs[k]? with
    | none => rfl
    | some y =>
      have hne : f y ≠ f x := by
        intro heq
        refine hjk ?_
        have hmap : (xs.map f)[j]? = (xs.map f)[k]? := by
          rw [List.getElem?_map, List.getElem?_map, hj, hk, Option.map_some, Option.map_some, heq]
        refine (List.getElem?_inj ?_ hxs).mp hmap
        rw [List.length_map]
        exact (List.getElem?_eq_some_iff.mp hj).1
      simp [hne]

end Distinct

/-! ### What a derived layer exposes -/

/-- **The stored fields of a declared struct**: one for each of its fields, in order, the
ancestor apart. A struct has no two fields of one identifier. -/
structure Part.OfItem (item : Item) (d : Derivation) (p : Part) : Prop where
  struct : p.struct = item.ident
  distinct : (Derivation.idents item).Nodup
  idents : p.fields.map StoredField.ident =
    (Derivation.idents item).filter fun ident => d.base.map Prod.fst ≠ some ident

/-- A layer whose descriptors are about the stored fields of a part. -/
structure Layer.Exposes (l : Layer) (p : Part) : Prop where
  struct : p.struct = l.struct
  distinct : (p.fields.map StoredField.ident).Nodup
  names : (l.fields.map FieldDescriptor.name).Nodup
  receiver : ∀ d ∈ l.fields, d.struct = l.struct
  stored : ∀ d ∈ l.fields, d.field ∈ p.fields.map StoredField.ident

/-- **A derived layer is about the fields of its struct.** -/
theorem Part.OfItem.exposes {item : Item} {paths : PathReader} {d : Derivation} {p : Part}
    (hp : p.OfItem item d) (hd : Derivation.ofItem item paths = .ok d) : d.layer.Exposes p := by
  have hsound := Derivation.sound_of_ofItem hd hp.distinct
  refine ⟨hp.struct.trans hsound.struct.symm, ?_, ?_, ?_, ?_⟩
  · rw [hp.idents]
    exact hp.distinct.filter _
  · have hnames : d.layer.fields.map FieldDescriptor.name = d.fields.map DerivedField.name := by
      simp [Derivation.layer]
    rw [hnames]
    exact hsound.names
  · intro e he
    obtain ⟨f, -, rfl⟩ := List.mem_map.mp he
    rfl
  · intro e he
    obtain ⟨f, hf, rfl⟩ := List.mem_map.mp he
    rw [hp.idents, List.mem_filter]
    refine ⟨hsound.fields f hf, decide_eq_true fun hbase => ?_⟩
    obtain ⟨b, hb, hbf⟩ := Option.map_eq_some_iff.mp hbase
    exact hsound.base b.1 b.2 hb f hf hbf.symm

namespace Layer.Exposes

variable {l : Layer} {p : Part} {d : FieldDescriptor}

theorem find?_name (hl : l.Exposes p) (hd : d ∈ l.fields) :
    l.fields.find? (fun e => e.name = d.name) = some d := find?_of_nodup_map hl.names hd

end Layer.Exposes

/-! ### The declaration that counts -/

namespace RecordType

/-- **The layer `k` is the first that declares a name**, by the descriptor `d`. -/
structure FirstDeclares (t : RecordType) (name : String) (k : Nat) (d : FieldDescriptor) :
    Prop where
  declared : ∃ s, t.lineage[k]? = some s ∧ d ∈ s.own.fields
  named : d.name = name
  first : ∀ m < k, ∀ s, t.lineage[m]? = some s → ∀ e ∈ s.own.fields, e.name ≠ name

variable {layer : Layer} {field : String} {base : RecordType} {name : String} {k : Nat}
  {d : FieldDescriptor}

theorem firstDeclares_root (h : (root layer).FirstDeclares name k d) :
    k = 0 ∧ d ∈ layer.fields := by
  obtain ⟨s, hs, hd⟩ := h.declared
  cases k with
  | zero =>
    cases hs
    exact ⟨rfl, hd⟩
  | succ k => cases hs

theorem firstDeclares_zero (h : (extending layer field base).FirstDeclares name 0 d) :
    d ∈ layer.fields := by
  obtain ⟨s, hs, hd⟩ := h.declared
  cases hs
  exact hd

theorem firstDeclares_succ (h : (extending layer field base).FirstDeclares name (k + 1) d) :
    (∀ e ∈ layer.fields, e.name ≠ name) ∧ base.FirstDeclares name k d :=
  ⟨h.first 0 (Nat.succ_pos k) _ rfl, h.declared, h.named,
    fun m hm s hs => h.first (m + 1) (Nat.succ_lt_succ hm) s hs⟩

theorem FirstDeclares.declares {t : RecordType} (h : t.FirstDeclares name k d) :
    t.Declares name := by
  obtain ⟨s, hs, hd⟩ := h.declared
  exact ⟨s, List.mem_of_getElem? hs, d, hd, h.named⟩

/-- The most derived layer is the first of all. -/
theorem firstDeclares_of_ownField? {t : RecordType} (hd : t.ownField? name = some d) :
    t.FirstDeclares name 0 d := by
  have hmem : d ∈ t.own.fields := List.mem_of_find?_eq_some hd
  have hname : d.name = name := by simpa using List.find?_some hd
  refine ⟨⟨t, ?_, hmem⟩, hname, fun m hm => absurd hm (Nat.not_lt_zero m)⟩
  cases t <;> rfl

/-- A layer that does not declare the name is passed over. -/
theorem FirstDeclares.extending (h : base.FirstDeclares name k d)
    (hown : (RecordType.extending layer field base).ownField? name = none) :
    (RecordType.extending layer field base).FirstDeclares name (k + 1) d := by
  refine ⟨h.declared, h.named, ?_⟩
  intro m hm u hu e he
  cases m with
  | zero =>
    cases hu
    exact ownField?_eq_none_iff.mp hown e he
  | succ m => exact h.first m (Nat.lt_of_succ_lt_succ hm) u hu e he

/-- A name that is declared has a first declaration. -/
theorem exists_firstDeclares {t : RecordType} (h : t.Declares name) :
    ∃ k d, t.FirstDeclares name k d := by
  induction t with
  | root layer =>
    cases hown : (root layer).ownField? name with
    | some d => exact ⟨0, d, firstDeclares_of_ownField? hown⟩
    | none =>
      obtain ⟨d, hd, hname⟩ := declares_root.mp h
      exact absurd hname (ownField?_eq_none_iff.mp hown d hd)
  | extending layer field base ih =>
    cases hown : (RecordType.extending layer field base).ownField? name with
    | some d => exact ⟨0, d, firstDeclares_of_ownField? hown⟩
    | none =>
      have hbase : base.Declares name := by
        rcases declares_extending.mp h with ⟨d, hd, hname⟩ | hbase
        · exact absurd hname (ownField?_eq_none_iff.mp hown d hd)
        · exact hbase
      obtain ⟨k, d, hfirst⟩ := ih hbase
      exact ⟨k + 1, d, hfirst.extending hown⟩

theorem lookup?_extending (layer : Layer) (field : String) (base : RecordType) (name : String) :
    (extending layer field base).lookup? name =
      ((extending layer field base).ownField? name).or (base.lookup? name) := by
  rw [lookup?, lineage, List.findSome?_cons]
  cases (extending layer field base).ownField? name <;> rfl

end RecordType

namespace Instance

/-- **An instance of a derived type**: every layer is derived from the declaration of its
struct, by some reader of paths, and the instance stores the fields of that declaration. -/
inductive Derived : RecordType → Instance → Prop where
  /-- A declaration without ancestor. -/
  | root {item : Item} {paths : PathReader} {d : Derivation} {p : Part}
      (derived : Derivation.ofItem item paths = .ok d) (base : d.base = none)
      (part : p.OfItem item d) : Derived (.root d.layer) (.root p)
  /-- A declaration with an ancestor, of a type that is itself derived. -/
  | extending {item : Item} {paths : PathReader} {d : Derivation} {p : Part}
      {field type : String} {t : RecordType} {ancestor : Instance}
      (derived : Derivation.ofItem item paths = .ok d) (base : d.base = some (field, type))
      (part : p.OfItem item d)
      (rest : Derived t ancestor) : Derived (.extending d.layer field t) (.extending p ancestor)

/-! ### One accessor -/

section Accessors

variable {i : Instance} {l : Layer} {d : FieldDescriptor}

/-- The parts of an instance with another own part. -/
theorem parts_withOwn (i : Instance) (p : Part) : (i.withOwn p).parts = i.parts.set 0 p := by
  cases i <;> rfl

theorem parts_zero (i : Instance) : i.parts[0]? = some i.own := by
  cases i <;> rfl

/-- **The field behind a descriptor**: what stands in the part `k` of an instance under the
number `j`, and what reading and writing do about it when they find it. -/
structure Reaches (read : Except AccessError Slot) (write : Slot → Except AccessError Instance)
    (i : Instance) (k : Nat) (d : FieldDescriptor) (p : Part) (j : Nat) (f : StoredField) :
    Prop where
  part : i.parts[k]? = some p
  struct : p.struct = d.struct
  stored : p.fields[j]? = some f
  ident : f.ident = d.field
  reads : read = .ok (f.type.toSlot f.content)
  refuses : d.readonly = true → ∀ s, write s = .error (.readOnly d.name)
  rejects : d.readonly = false → ∀ s e, f.type.ofSlot s = .error e → write s = .error e
  /-- A slot that fits replaces this content; all other fields of all parts stay. -/
  replaces : d.readonly = false → ∀ s c, f.type.ofSlot s = .ok c → ∃ i', write s = .ok i' ∧
    i'.parts = i.parts.set k { p with fields := p.fields.set j { f with content := c } }

/-- The field that a descriptor of the layer is about. -/
theorem exists_target? (hl : l.Exposes i.own) (hd : d ∈ l.fields) :
    i.own.struct = d.struct ∧
      ∃ (j : Nat) (f : StoredField), i.own.fields[j]? = some f ∧ f.ident = d.field ∧
        i.target? d = some f := by
  have hstruct : i.own.struct = d.struct := hl.struct.trans (hl.receiver d hd).symm
  obtain ⟨f, hf, hident⟩ := List.mem_map.mp (hl.stored d hd)
  obtain ⟨j, hj⟩ := List.mem_iff_getElem?.mp hf
  refine ⟨hstruct, j, f, hj, hident, ?_⟩
  rw [target?, if_pos hstruct, ← hident]
  exact find?_of_nodup_map hl.distinct hf

/-- The accessors of a descriptor reach the field that it is about. -/
theorem accessors_reach (hl : l.Exposes i.own) (hd : d ∈ l.fields) :
    ∃ p j f, Reaches (i.readWith d) (i.writeWith d) i 0 d p j f := by
  obtain ⟨hstruct, j, f, hj, hident, htarget⟩ := exists_target? hl hd
  have hwrite : d.readonly = false → ∀ s, i.writeWith d s =
      (f.write s).map fun g => i.withOwn (i.own.replace g) := by
    intro hro s
    simp only [writeWith, hro, htarget, Bool.false_eq_true, if_false]
  refine ⟨i.own, j, f, parts_zero i, hstruct, hj, hident, readWith_of_target? htarget,
    fun hro s => ?_, fun hro s e he => ?_, fun hro s c hc => ?_⟩
  · rw [writeWith, if_pos hro]
  · rw [hwrite hro, StoredField.write, he]
    rfl
  · refine ⟨i.withOwn (i.own.replace { f with content := c }), ?_, ?_⟩
    · rw [hwrite hro, StoredField.write, hc]
      rfl
    · rw [parts_withOwn]
      exact congrArg (fun fields => i.parts.set 0 (Part.mk i.own.struct fields))
        (map_ite_eq_set hl.distinct hj _)

end Accessors

/-! ### The walk to the ancestor -/

variable {t : RecordType} {i : Instance} {name : String}

/-- **An instance that no layer refuses**: each accessor of each layer finds its field in
the instance that the walk has reached, and each layer but the root steps on to an ancestor. -/
inductive Accepted : RecordType → Instance → Prop where
  | root {layer : Layer} {i : Instance}
      (accessors : ∀ d ∈ layer.fields, (i.target? d).isSome = true) : Accepted (.root layer) i
  | extending {layer : Layer} {field : String} {t : RecordType} {p : Part} {ancestor : Instance}
      (accessors : ∀ d ∈ layer.fields, ((extending p ancestor).target? d).isSome = true)
      (projection : p.struct = layer.struct) (rest : Accepted t ancestor) :
      Accepted (.extending layer field t) (.extending p ancestor)

/-- A name that no layer declares is not found. -/
theorem Accepted.undeclared (ht : Accepted t i) (hn : ¬ t.Declares name) :
    read t i name = .error (.notFound name) ∧ ∀ s, write t i name s = .error (.notFound name) := by
  induction ht with
  | @root layer i accessors =>
    have hown : (RecordType.root layer).ownField? name = none :=
      RecordType.ownField?_eq_none_iff.mpr fun e he heq =>
        hn (RecordType.declares_root.mpr ⟨e, he, heq⟩)
    constructor
    · rw [read, hown]
    · intro s
      rw [write, hown]
  | @extending layer field t p ancestor accessors projection rest ih =>
    have hown : (RecordType.extending layer field t).ownField? name = none :=
      RecordType.ownField?_eq_none_iff.mpr fun e he heq =>
        hn (RecordType.declares_extending.mpr (.inl ⟨e, he, heq⟩))
    obtain ⟨hread, hwrite⟩ := ih fun hbase => hn (RecordType.declares_extending.mpr (.inr hbase))
    constructor
    · rw [read, hown]
      simp only [projection, if_true, hread]
    · intro s
      rw [write, hown]
      simp only [projection, if_true, hwrite]
      rfl

theorem readWith_of_isSome {d : FieldDescriptor} (hd : (i.target? d).isSome = true) :
    ∃ s, i.readWith d = .ok s := by
  obtain ⟨f, hf⟩ := Option.isSome_iff_exists.mp hd
  exact ⟨_, readWith_of_target? hf⟩

/-- A name that some layer declares is read. -/
theorem Accepted.readable (ht : Accepted t i) (hn : t.Declares name) :
    ∃ s, read t i name = .ok s := by
  induction ht with
  | @root layer i accessors =>
    cases hown : (RecordType.root layer).ownField? name with
    | some d =>
      rw [read, hown]
      exact readWith_of_isSome (accessors d (List.mem_of_find?_eq_some hown))
    | none =>
      obtain ⟨d, hd, hname⟩ := RecordType.declares_root.mp hn
      exact absurd hname (RecordType.ownField?_eq_none_iff.mp hown d hd)
  | @extending layer field t p ancestor accessors projection rest ih =>
    cases hown : (RecordType.extending layer field t).ownField? name with
    | some d =>
      rw [read, hown]
      exact readWith_of_isSome (accessors d (List.mem_of_find?_eq_some hown))
    | none =>
      rcases RecordType.declares_extending.mp hn with ⟨d, hd, hname⟩ | hbase
      · exact absurd hname (RecordType.ownField?_eq_none_iff.mp hown d hd)
      · rw [read, hown]
        simp only [projection, if_true]
        exact ih hbase

/-- No layer of a derived type refuses an instance of the type. -/
theorem Derived.accepted (ht : Derived t i) : Accepted t i := by
  induction ht with
  | @root item paths d p derived base part =>
    refine .root fun e he => ?_
    obtain ⟨-, j, f, -, -, hf⟩ := exists_target? (i := .root p) (part.exposes derived) he
    exact Option.isSome_iff_exists.mpr ⟨f, hf⟩
  | @extending item paths d p field type t ancestor derived base part rest ih =>
    have hl := part.exposes derived
    refine .extending (fun e he => ?_) hl.struct ih
    obtain ⟨-, j, f, -, -, hf⟩ := exists_target? (i := .extending p ancestor) hl he
    exact Option.isSome_iff_exists.mpr ⟨f, hf⟩

/-- A walk that steps on to the ancestor reaches the field that the ancestor's walk does. -/
theorem Reaches.extending {layer : Layer} {field : String} {ancestor : Instance} {own : Part}
    {k : Nat} {d : FieldDescriptor} {p : Part} {j : Nat} {f : StoredField}
    (hown : (RecordType.extending layer field t).ownField? name = none)
    (hstruct : own.struct = layer.struct)
    (hr : Reaches (read t ancestor name) (write t ancestor name) ancestor k d p j f) :
    Reaches (read (.extending layer field t) (.extending own ancestor) name)
      (write (.extending layer field t) (.extending own ancestor) name)
      (.extending own ancestor) (k + 1) d p j f := by
  have hread : read (.extending layer field t) (.extending own ancestor) name =
      read t ancestor name := by
    rw [read, hown]
    simp only [hstruct, if_true]
  have hwrite : ∀ s, write (.extending layer field t) (.extending own ancestor) name s =
      (write t ancestor name s).map (.extending own) := by
    intro s
    rw [write, hown]
    simp only [hstruct, if_true]
  refine ⟨hr.part, hr.struct, hr.stored, hr.ident, hread.trans hr.reads, fun hro s => ?_,
    fun hro s e he => ?_, fun hro s c hc => ?_⟩
  · rw [hwrite, hr.refuses hro]
    rfl
  · rw [hwrite, hr.rejects hro s e he]
    rfl
  · obtain ⟨ancestor', hok, hparts⟩ := hr.replaces hro s c hc
    refine ⟨.extending own ancestor', ?_, ?_⟩
    · rw [hwrite, hok]
      rfl
    · rw [parts, hparts]
      rfl

/-- **A name is resolved to its first declaration**, and reading and writing reach the
field of the ancestor that this declaration is about. -/
theorem Derived.declared {k : Nat} {d : FieldDescriptor} (ht : Derived t i)
    (hfirst : t.FirstDeclares name k d) :
    t.lookup? name = some d ∧ ∃ p j f, Reaches (read t i name) (write t i name) i k d p j f := by
  obtain rfl := hfirst.named
  induction ht generalizing k with
  | @root item paths e p derived base part =>
    have hl := part.exposes derived
    obtain ⟨rfl, hd⟩ := RecordType.firstDeclares_root hfirst
    have hown : (RecordType.root e.layer).ownField? d.name = some d := hl.find?_name hd
    constructor
    · rw [RecordType.lookup?, RecordType.lineage, List.findSome?_cons, hown]
    · have hread : read (.root e.layer) (.root p) d.name = (Instance.root p).readWith d := by
        rw [read, hown]
      have hwrite : write (.root e.layer) (.root p) d.name = (Instance.root p).writeWith d := by
        funext s
        rw [write, hown]
      rw [hread, hwrite]
      exact accessors_reach (i := .root p) hl hd
  | @extending item paths e p field type t ancestor derived base part rest ih =>
    have hl := part.exposes derived
    rw [RecordType.lookup?_extending]
    cases k with
    | zero =>
      have hd := RecordType.firstDeclares_zero hfirst
      have hown : (RecordType.extending e.layer field t).ownField? d.name = some d :=
        hl.find?_name hd
      constructor
      · rw [hown]
        rfl
      · have hread : read (.extending e.layer field t) (.extending p ancestor) d.name =
            (Instance.extending p ancestor).readWith d := by
          rw [read, hown]
        have hwrite : write (.extending e.layer field t) (.extending p ancestor) d.name =
            (Instance.extending p ancestor).writeWith d := by
          funext s
          rw [write, hown]
        rw [hread, hwrite]
        exact accessors_reach (i := .extending p ancestor) hl hd
    | succ k =>
      obtain ⟨hnone, hfirst⟩ := RecordType.firstDeclares_succ hfirst
      have hown : (RecordType.extending e.layer field t).ownField? d.name = none :=
        RecordType.ownField?_eq_none_iff.mpr hnone
      obtain ⟨hlookup, q, j, f, hreach⟩ := ih hfirst
      refine ⟨?_, q, j, f, hreach.extending hown hl.struct⟩
      rw [hown, hlookup]
      rfl

/-! ### Access to a record -/

/-- Nothing of a derived type is ever handed to an accessor of another struct. -/
theorem Reaches.receiver {r : Except AccessError Slot} {w : Slot → Except AccessError Instance}
    {k : Nat} {d : FieldDescriptor} {p : Part} {j : Nat} {f : StoredField}
    (hr : Reaches r w i k d p j f) (owner : String) :
    r ≠ .error (.wrongReceiver owner) ∧ ∀ s, w s ≠ .error (.wrongReceiver owner) := by
  refine ⟨by simp [hr.reads], fun s hs => ?_⟩
  cases hro : d.readonly with
  | true =>
    rw [hr.refuses hro] at hs
    cases hs
  | false =>
    cases hc : f.type.ofSlot s with
    | ok c =>
      obtain ⟨i', hok, -⟩ := hr.replaces hro s c hc
      rw [hok] at hs
      cases hs
    | error e =>
      rw [hr.rejects hro s e hc] at hs
      rw [FieldType.ofSlot_eq_error hc] at hs
      cases hs

/-- **Access to a record of a derived type** resolves a name to its first declaration on the
way from the most derived layer to the root, and touches nothing but the field behind it. -/
theorem derived_access {t : RecordType} {i : Instance} (ht : Derived t i) (name : String) :
    (¬ t.Declares name → t.lookup? name = none ∧ name ∉ t.scriptNames ∧
      read t i name = .error (.notFound name) ∧
      ∀ s, write t i name s = .error (.notFound name)) ∧
    (∀ k d, t.FirstDeclares name k d → name ∈ t.scriptNames ∧ t.lookup? name = some d ∧
      ∃ p j f, Reaches (read t i name) (write t i name) i k d p j f) ∧
    (¬ t.Declares name ∨ ∃ k d, t.FirstDeclares name k d) ∧
    (∀ owner, read t i name ≠ .error (.wrongReceiver owner) ∧
      ∀ s, write t i name s ≠ .error (.wrongReceiver owner)) ∧
    t.scriptNames.Pairwise (· < ·) ∧
    ∀ other, other ∈ t.scriptNames ↔ (t.lookup? other).isSome = true := by
  have hcases : ¬ t.Declares name ∨ ∃ k d, t.FirstDeclares name k d :=
    (Classical.em (t.Declares name)).symm.imp_right RecordType.exists_firstDeclares
  refine ⟨fun hn => ?_, fun k d hfirst => ?_, hcases, fun owner => ?_,
    RecordType.pairwise_scriptNames t, fun other => RecordType.mem_scriptNames_iff⟩
  · exact ⟨RecordType.lookup?_eq_none_iff.mpr hn, fun hm => hn (RecordType.mem_scriptNames.mp hm),
      ht.accepted.undeclared hn⟩
  · exact ⟨RecordType.mem_scriptNames.mpr hfirst.declares, ht.declared hfirst⟩
  · rcases hcases with hn | ⟨k, d, hfirst⟩
    · obtain ⟨hread, hwrite⟩ := ht.accepted.undeclared hn
      exact ⟨by simp [hread], fun s => by simp [hwrite s]⟩
    · obtain ⟨-, p, j, f, hreach⟩ := ht.declared hfirst
      exact hreach.receiver owner

/-! ### A chain of three declarations -/

/-- The declaration of the root. -/
def level0Item : Item where
  kind := .struct
  ident := "L0"
  generics := []
  attributes := []
  fields := [⟨"v", "i32", [.bare "script"]⟩, ⟨"a0", "i32", [.bare "script"]⟩,
    ⟨"sealed", "i32", [.call "script" [.bare "readonly"]]⟩]

/-- The declaration one above the root, which declares two of its names again. -/
def level1Item : Item where
  kind := .struct
  ident := "L1"
  generics := []
  attributes := []
  fields := [⟨"l0", "L0", [.call "script" [.bare "base"]]⟩,
    ⟨"v", "i64", [.call "script" [.bare "readonly"]]⟩, ⟨"a1", "i64", [.bare "script"]⟩,
    ⟨"sealed", "i32", [.bare "script"]⟩]

/-- The declaration two above the root, with a renamed field before the ancestor. -/
def level2Item : Item where
  kind := .struct
  ident := "L2"
  generics := []
  attributes := []
  fields := [⟨"v", "f32", [.bare "script"]⟩,
    ⟨"shadow", "String", [.call "script" [.assign "name" (.text "a1")]]⟩,
    ⟨"l1", "L1", [.call "script" [.bare "base"]]⟩]

theorem derived_level0 : Derived Blueprint.level0Type Blueprint.level0 := by
  have h := @Derived.root level0Item PathText.read _ Blueprint.level0.own rfl rfl
    ⟨rfl, by decide, rfl⟩
  exact h

theorem derived_level1 : Derived Blueprint.level1Type Blueprint.level1 := by
  have h := @Derived.extending level1Item PathText.read _ Blueprint.level1.own _ _ _ _ rfl rfl
    ⟨rfl, by decide, rfl⟩ derived_level0
  exact h

theorem derived_level2 : Derived Blueprint.level2Type Blueprint.level2 := by
  have h := @Derived.extending level2Item PathText.read _ Blueprint.level2.own _ _ _ _ rfl rfl
    ⟨rfl, by decide, rfl⟩ derived_level1
  exact h

/-- A name that the root seals is open again one above it, where the walk finds it. -/
theorem derived_access_level2 :
    Derived Blueprint.level2Type Blueprint.level2 ∧
      ∃ p j f, Reaches (read Blueprint.level2Type Blueprint.level2 "sealed")
        (write Blueprint.level2Type Blueprint.level2 "sealed") Blueprint.level2 1
        ⟨"sealed", "sealed", false, "L1", "L1", "L1"⟩ p j f := by
  refine ⟨derived_level2, ((derived_access derived_level2 "sealed").2.1 1 _ ?_).2.2⟩
  refine ⟨⟨Blueprint.level1Type, rfl, by decide⟩, rfl, fun m hm s hs e he => ?_⟩
  obtain rfl : m = 0 := Nat.lt_one_iff.mp hm
  cases hs
  revert e
  decide

end Instance

end ScriptHost
