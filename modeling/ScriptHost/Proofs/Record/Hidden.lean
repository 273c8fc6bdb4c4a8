import ScriptHost.Proofs.Record.Derived

/-!
# Fields that no name leads to

A field is hidden if no descriptor of its layer is about it, or if the names of those that are
have been declared again further down. Access by name does not depend on what is in a hidden
field, and leaves it as it is; and it leaves read-only fields as they are, hidden or not.

## The model

`Instance.Agree q` relates instances of the same structs with the same fields, whose contents are
equal where `q` holds. The layers are numbered from the most derived one.

## What is proved

* Instances that agree on the fields which are not hidden are read alike (`Instance.read_agree`)
  and written alike (`Instance.write_agree`).
* Before and after a write an instance agrees with itself on its hidden and its read-only fields
  (`Instance.write_keeps`).
-/

namespace ScriptHost

open Outcome

/-! ### Hidden and read-only -/

namespace RecordType

/-- **The field is hidden**: a descriptor of its layer that is about it, if there is one, has a
name that a more derived layer declares again. -/
def Hidden (t : RecordType) (k : Nat) (ident : String) : Prop :=
  ∀ s d, t.lineage[k]? = some s → d ∈ s.own.fields → d.field = ident →
    ∃ m < k, ∃ u, t.lineage[m]? = some u ∧ ∃ e ∈ u.own.fields, e.name = d.name

/-- **The field is read-only**: descriptors of its layer that are about it say so. -/
def ReadOnly (t : RecordType) (k : Nat) (ident : String) : Prop :=
  ∀ s d, t.lineage[k]? = some s → d ∈ s.own.fields → d.field = ident → d.readonly = true

variable {t : RecordType} {name : String} {k : Nat} {d : FieldDescriptor}

/-- A name does not lead to a hidden field. -/
theorem FirstDeclares.not_hidden (h : t.FirstDeclares name k d) : ¬ t.Hidden k d.field := by
  intro hhidden
  obtain ⟨s, hs, hd⟩ := h.declared
  obtain ⟨m, hm, u, hu, e, he, hname⟩ := hhidden s d hs hd rfl
  exact h.first m hm u hu e he (hname.trans h.named)

theorem FirstDeclares.not_readOnly (h : t.FirstDeclares name k d) (hro : d.readonly = false) :
    ¬ t.ReadOnly k d.field := by
  intro hreadonly
  obtain ⟨s, hs, hd⟩ := h.declared
  have htrue := hreadonly s d hs hd rfl
  rw [hro] at htrue
  cases htrue

end RecordType

/-! ### Parts that agree -/

/-- **Fields that agree where `q` holds**: they have the same identifier, and are the same if `q`
holds of it. -/
structure StoredField.Agree (q : String → Prop) (f f' : StoredField) : Prop where
  ident : f.ident = f'.ident
  same : q f.ident → f = f'

theorem StoredField.Agree.refl (q : String → Prop) (f : StoredField) : f.Agree q f :=
  ⟨rfl, fun _ => rfl⟩

theorem StoredField.Agree.trans {q : String → Prop} {f f' f'' : StoredField} (h : f.Agree q f')
    (h' : f'.Agree q f'') : f.Agree q f'' := by
  refine ⟨h.ident.trans h'.ident, fun hq => ?_⟩
  have heq : f = f' := h.same hq
  exact heq.trans (h'.same (heq ▸ hq))

/-- **Parts that agree where `q` holds**: the same struct, and fields that agree in order. -/
structure Part.Agree (q : String → Prop) (p p' : Part) : Prop where
  struct : p.struct = p'.struct
  fields : List.Forall₂ (StoredField.Agree q) p.fields p'.fields

namespace Part.Agree

variable {q : String → Prop} {p p' p'' : Part} {ident : String} {g : StoredField}

theorem refl (q : String → Prop) (p : Part) : p.Agree q p :=
  ⟨rfl, List.forall₂_same.mpr fun f _ => .refl q f⟩

theorem trans (h : p.Agree q p') (h' : p'.Agree q p'') : p.Agree q p'' := by
  refine ⟨h.struct.trans h'.struct, ?_⟩
  have hfields := h.fields
  have hfields' := h'.fields
  generalize p.fields = fs, p'.fields = fs', p''.fields = fs'' at hfields hfields'
  induction hfields generalizing fs'' with
  | nil => exact hfields'
  | cons hf _ ih =>
    cases hfields' with
    | cons hf' hrest => exact .cons (hf.trans hf') (ih _ hrest)

/-- Where they agree, parts have the same fields. -/
theorem field?_eq (h : p.Agree q p') (hq : q ident) : p.field? ident = p'.field? ident := by
  have hfields := h.fields
  unfold field?
  generalize p.fields = fs, p'.fields = fs' at hfields
  induction hfields with
  | nil => rfl
  | @cons f f' fs fs' hf _ ih =>
    by_cases hident : f.ident = ident
    · obtain rfl := hf.same (hident ▸ hq)
      rw [List.find?_cons_of_pos (by simpa using hident),
        List.find?_cons_of_pos (by simpa using hident)]
    · have hident' : ¬ f'.ident = ident := hf.ident ▸ hident
      rw [List.find?_cons_of_neg (by simpa using hident),
        List.find?_cons_of_neg (by simpa using hident'), ih]

theorem replace (h : p.Agree q p') (g : StoredField) : (p.replace g).Agree q (p'.replace g) := by
  refine ⟨h.struct, List.forall₂_map_left_iff.mpr (List.forall₂_map_right_iff.mpr ?_)⟩
  refine h.fields.imp fun f f' hf => ?_
  rw [← hf.ident]
  split
  · exact .refl q g
  · exact hf

/-- Replacing a field is not seen where `q` does not ask for it. -/
theorem replace_self (hg : ¬ q g.ident) : p.Agree q (p.replace g) := by
  refine ⟨rfl, List.forall₂_map_right_iff.mpr (List.forall₂_same.mpr fun f _ => ?_)⟩
  split
  · next hident =>
    refine ⟨hident, fun hq => ?_⟩
    exact absurd (hident ▸ hq) hg
  · exact .refl q f

end Part.Agree

/-! ### Instances that agree -/

namespace Instance

/-- **Instances that agree where `q` holds** of a layer and an identifier. -/
inductive Agree : (Nat → String → Prop) → Instance → Instance → Prop where
  | root {q : Nat → String → Prop} {p p' : Part} (own : p.Agree (q 0) p') :
      Agree q (.root p) (.root p')
  | extending {q : Nat → String → Prop} {p p' : Part} {base base' : Instance}
      (own : p.Agree (q 0) p') (rest : Agree (fun k => q (k + 1)) base base') :
      Agree q (.extending p base) (.extending p' base')

namespace Agree

variable {q : Nat → String → Prop} {i i' i'' : Instance} {p p' : Part} {d : FieldDescriptor}
  {s : Slot}

theorem refl (q : Nat → String → Prop) (i : Instance) : i.Agree q i := by
  induction i generalizing q with
  | root p => exact .root (.refl _ p)
  | extending p base ih => exact .extending (.refl _ p) (ih _)

theorem trans (h : i.Agree q i') (h' : i'.Agree q i'') : i.Agree q i'' := by
  induction h generalizing i'' with
  | root own =>
    cases h' with
    | root own' => exact .root (own.trans own')
  | extending own _ ih =>
    cases h' with
    | extending own' rest' => exact .extending (own.trans own') (ih rest')

theorem own (h : i.Agree q i') : i.own.Agree (q 0) i'.own := by
  cases h with
  | root own => exact own
  | extending own _ => exact own

theorem withOwn (h : i.Agree q i') (hp : p.Agree (q 0) p') :
    (i.withOwn p).Agree q (i'.withOwn p') := by
  cases h with
  | root _ => exact .root hp
  | extending _ rest => exact .extending hp rest

/-! ### One accessor -/

theorem ident_of_target? {f : StoredField} (hf : i.target? d = some f) : f.ident = d.field := by
  unfold target? at hf
  split at hf
  · unfold Part.field? at hf
    simpa using List.find?_some hf
  · cases hf

theorem withOwn_own (i : Instance) : i.withOwn i.own = i := by
  cases i <;> rfl

theorem target?_eq (h : i.Agree q i') (hq : q 0 d.field) : i.target? d = i'.target? d := by
  rw [target?, target?, h.own.struct, h.own.field?_eq hq]

theorem readWith_eq (h : i.Agree q i') (hq : q 0 d.field) : i.readWith d = i'.readWith d := by
  rw [readWith, readWith, h.target?_eq hq]

theorem writeWith (h : i.Agree q i') (hq : q 0 d.field) :
    Alike (Agree q) (i.writeWith d s) (i'.writeWith d s) := by
  rw [Instance.writeWith, Instance.writeWith, ← h.target?_eq hq]
  split
  · exact .error _
  · cases i.target? d with
    | none => exact .error _
    | some f =>
      dsimp only
      cases f.write s with
      | error e => exact .error e
      | ok g => exact .ok (h.withOwn (h.own.replace g))

/-- A writer changes nothing but the field that its descriptor is about. -/
theorem of_writeWith (hi : i.writeWith d s = .ok i') (hq : d.readonly = false → ¬ q 0 d.field) :
    i.Agree q i' := by
  rw [Instance.writeWith] at hi
  cases hro : d.readonly with
  | true =>
    rw [hro] at hi
    cases hi
  | false =>
    rw [hro] at hi
    cases ht : i.target? d with
    | none =>
      rw [ht] at hi
      cases hi
    | some f =>
      rw [ht] at hi
      obtain ⟨g, hg, rfl⟩ := map_eq_ok_iff.mp hi
      obtain ⟨c, -, rfl⟩ := StoredField.write_eq_ok_iff.mp hg
      have hident : f.ident = d.field := ident_of_target? ht
      have hown : i.own.Agree (q 0) (i.own.replace { f with content := c }) :=
        .replace_self (hident ▸ hq hro)
      have hagree := (refl q i).withOwn hown
      rwa [withOwn_own] at hagree

end Agree

/-! ### Access by name -/

variable {q : Nat → String → Prop} {t : RecordType} {i i' : Instance} {name : String} {s : Slot}

/-- **Reading sees one field only**, the one that the first declaration of the name is about. -/
theorem read_agree (h : i.Agree q i') (name : String)
    (hq : ∀ k d, t.FirstDeclares name k d → q k d.field) : read t i name = read t i' name := by
  induction t generalizing q i i' with
  | root layer =>
    rw [read, read]
    cases hd : (RecordType.root layer).ownField? name with
    | none => rfl
    | some d => exact h.readWith_eq (hq 0 d (RecordType.firstDeclares_of_ownField? hd))
  | extending layer field base ih =>
    rw [read.eq_def, read.eq_def]
    dsimp only
    cases hd : (RecordType.extending layer field base).ownField? name with
    | some d => exact h.readWith_eq (hq 0 d (RecordType.firstDeclares_of_ownField? hd))
    | none =>
      cases h with
      | root _ => rfl
      | extending own rest =>
        dsimp only
        rw [own.struct, ih rest fun k d hfirst => hq (k + 1) d (hfirst.extending hd)]

/-- **Writing depends on that field only**, and keeps instances alike elsewhere. -/
theorem write_agree (h : i.Agree q i') (name : String) (s : Slot)
    (hq : ∀ k d, t.FirstDeclares name k d → q k d.field) :
    Alike (Agree q) (write t i name s) (write t i' name s) := by
  induction t generalizing q i i' with
  | root layer =>
    rw [write, write]
    cases hd : (RecordType.root layer).ownField? name with
    | none => exact .error _
    | some d => exact h.writeWith (hq 0 d (RecordType.firstDeclares_of_ownField? hd))
  | extending layer field base ih =>
    rw [write.eq_def, write.eq_def]
    dsimp only
    cases hd : (RecordType.extending layer field base).ownField? name with
    | some d => exact h.writeWith (hq 0 d (RecordType.firstDeclares_of_ownField? hd))
    | none =>
      cases h with
      | root _ => exact .error _
      | @extending _ p p' ancestor ancestor' own rest =>
        dsimp only
        rw [own.struct]
        split
        · have hrest := ih rest fun k d hfirst => hq (k + 1) d (hfirst.extending hd)
          exact hrest.map fun _ _ related => .extending own related
        · exact .error _

/-- **Writing keeps all fields but that one**, and that one too if it is read-only. -/
theorem write_keeps (hi : write t i name s = .ok i')
    (hq : ∀ k d, t.FirstDeclares name k d → d.readonly = false → ¬ q k d.field) :
    i.Agree q i' := by
  have hwrites := writes_of_write hi
  clear hi
  induction hwrites generalizing q with
  | own declared written =>
    exact .of_writeWith written (hq 0 _ (RecordType.firstDeclares_of_ownField? declared))
  | passed undeclared _ _ ih =>
    refine .extending (.refl _ _) (ih ?_)
    intro k d hfirst
    exact hq (k + 1) d (hfirst.extending undeclared)

end Instance

end ScriptHost
