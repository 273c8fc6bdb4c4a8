import ScriptHost.Proofs.Record.Conversion
import ScriptHost.Record.Instance

/-!
# The field behind a name

`Instance.field?` is the stored field that a name is resolved to, over however many layers. A
read gives its content (`read_of_field?`). A write that succeeds passes the layers that do not
declare the name (`Instance.Writes`), and gives the same name a field of the same type, with the
content that the slot was converted to (`write_resolves`).
-/

namespace ScriptHost

open Outcome

theorem StoredField.write_eq_ok_iff {f g : StoredField} {s : Slot} :
    f.write s = .ok g ↔ ∃ c, f.type.ofSlot s = .ok c ∧ g = { f with content := c } := by
  rw [write, map_eq_ok_iff]
  simp only [eq_comm]

namespace Part

variable {p : Part} {f : StoredField} {ident : String}

/-- The replaced field is found under its identifier. -/
theorem field?_replace (hf : p.field? ident = some f) (g : StoredField) (hg : g.ident = f.ident) :
    (p.replace g).field? ident = some g := by
  unfold field? at hf
  have hident : f.ident = ident := by simpa using List.find?_some hf
  unfold field? replace
  dsimp only
  generalize p.fields = fields at hf
  induction fields with
  | nil => cases hf
  | cons x xs ih =>
    rw [List.map_cons]
    by_cases hx : x.ident = ident
    · rw [if_pos (by rw [hx, hg, hident]), List.find?_cons_of_pos (by simp [hg, hident])]
    · rw [List.find?_cons_of_neg (by simpa using hx)] at hf
      rw [if_neg (by rw [hg, hident]; exact hx), List.find?_cons_of_neg (by simpa using hx)]
      exact ih hf

end Part

namespace Instance

@[simp] theorem own_withOwn (p : Part) (i : Instance) : (i.withOwn p).own = p := by
  cases i <;> rfl

theorem target?_withOwn {i : Instance} {d : FieldDescriptor} {f g : StoredField}
    (hf : i.target? d = some f) (hg : g.ident = f.ident) :
    (i.withOwn (i.own.replace g)).target? d = some g := by
  unfold target? at hf ⊢
  split at hf
  · next hd =>
    rw [own_withOwn, if_pos (by exact hd)]
    exact Part.field?_replace hf g hg
  · cases hf

/-- **The stored field that a name is resolved to**: the first layer that declares the name
decides, and its descriptor must be about the instance that the walk has reached. -/
def field? : RecordType → Instance → String → Option StoredField
  | .root layer, i, name => ((RecordType.root layer).ownField? name).bind i.target?
  | .extending layer field base, i, name =>
    match (RecordType.extending layer field base).ownField? name with
    | some d => i.target? d
    | none =>
      match i with
      | extending p ancestor => if p.struct = layer.struct then field? base ancestor name else none
      | root _ => none

theorem readWith_of_target? {i : Instance} {d : FieldDescriptor} {f : StoredField}
    (hf : i.target? d = some f) : i.readWith d = .ok f.read := by
  rw [readWith, hf]

/-- What a writer leaves when it succeeds. -/
theorem writeWith_resolves {i i' : Instance} {d : FieldDescriptor} {s : Slot}
    (hi : i.writeWith d s = .ok i') :
    ∃ f c, i.target? d = some f ∧ f.type.ofSlot s = .ok c ∧
      i'.target? d = some { f with content := c } := by
  rw [writeWith] at hi
  split at hi
  · cases hi
  · cases ht : i.target? d with
    | none =>
      rw [ht] at hi
      cases hi
    | some f =>
      rw [ht] at hi
      obtain ⟨g, hg, rfl⟩ := map_eq_ok_iff.mp hi
      obtain ⟨c, hc, rfl⟩ := StoredField.write_eq_ok_iff.mp hg
      exact ⟨f, c, rfl, hc, target?_withOwn ht rfl⟩

theorem read_of_field? {t : RecordType} {i : Instance} {name : String} {f : StoredField}
    (hf : field? t i name = some f) : read t i name = .ok f.read := by
  induction t generalizing i with
  | root layer =>
    rw [field?] at hf
    rw [read]
    obtain ⟨d, hd, hf⟩ := Option.bind_eq_some_iff.mp hf
    rw [hd]
    exact readWith_of_target? hf
  | extending layer field base ih =>
    rw [field?.eq_def] at hf
    rw [read.eq_def]
    dsimp only at hf ⊢
    cases hd : (RecordType.extending layer field base).ownField? name with
    | some d =>
      rw [hd] at hf
      exact readWith_of_target? hf
    | none =>
      rw [hd] at hf
      cases i with
      | root p => cases hf
      | extending p ancestor =>
        dsimp only at hf ⊢
        split at hf
        · next hp =>
          rw [if_pos hp]
          exact ih hf
        · cases hf

theorem field?_of_ownField? {t : RecordType} {i : Instance} {name : String} {d : FieldDescriptor}
    (hd : t.ownField? name = some d) : field? t i name = i.target? d := by
  cases t with
  | root layer => rw [field?, hd, Option.bind_some]
  | extending layer field base =>
    rw [field?.eq_def]
    simp only [hd]

theorem field?_of_passed {layer : Layer} {field name : String} {base : RecordType} {p : Part}
    {ancestor : Instance} (hd : (RecordType.extending layer field base).ownField? name = none)
    (hp : p.struct = layer.struct) :
    field? (.extending layer field base) (.extending p ancestor) name =
      field? base ancestor name := by
  rw [field?.eq_def]
  simp only [hd, hp, if_true]

/-- **The way of a write that succeeds**: it passes the layers that do not declare the name, and
the first one that does applies its writer. -/
inductive Writes (name : String) (s : Slot) : RecordType → Instance → Instance → Prop where
  | own {t : RecordType} {i i' : Instance} {d : FieldDescriptor}
      (declared : t.ownField? name = some d) (written : i.writeWith d s = .ok i') :
      Writes name s t i i'
  | passed {layer : Layer} {field : String} {base : RecordType} {p : Part}
      {ancestor ancestor' : Instance}
      (undeclared : (RecordType.extending layer field base).ownField? name = none)
      (struct : p.struct = layer.struct) (rest : Writes name s base ancestor ancestor') :
      Writes name s (.extending layer field base) (.extending p ancestor) (.extending p ancestor')

theorem writes_of_write {t : RecordType} {i i' : Instance} {name : String} {s : Slot}
    (hi : write t i name s = .ok i') : Writes name s t i i' := by
  induction t generalizing i i' with
  | root layer =>
    rw [write] at hi
    cases hd : (RecordType.root layer).ownField? name with
    | none =>
      rw [hd] at hi
      cases hi
    | some d =>
      rw [hd] at hi
      exact .own hd hi
  | extending layer field base ih =>
    rw [write.eq_def] at hi
    dsimp only at hi
    cases hd : (RecordType.extending layer field base).ownField? name with
    | some d =>
      rw [hd] at hi
      exact .own hd hi
    | none =>
      rw [hd] at hi
      cases i with
      | root p => cases hi
      | extending p ancestor =>
        dsimp only at hi
        split at hi
        · next hp =>
          obtain ⟨ancestor', ha, rfl⟩ := map_eq_ok_iff.mp hi
          exact .passed hd hp (ih ha)
        · cases hi

/-- **A write reaches the field that is read**, over any number of layers, and puts into it
what its type makes of the slot. -/
theorem write_resolves {t : RecordType} {i i' : Instance} {name : String} {s : Slot}
    (hi : write t i name s = .ok i') :
    ∃ f c, field? t i name = some f ∧ f.type.ofSlot s = .ok c ∧
      field? t i' name = some { f with content := c } := by
  have hwrites := writes_of_write hi
  clear hi
  induction hwrites with
  | own declared written =>
    obtain ⟨f, c, hf, hc, hf'⟩ := writeWith_resolves written
    refine ⟨f, c, ?_, hc, ?_⟩
    · rw [field?_of_ownField? declared, hf]
    · rw [field?_of_ownField? declared, hf']
  | passed undeclared struct _ ih =>
    obtain ⟨f, c, hf, hc, hf'⟩ := ih
    refine ⟨f, c, ?_, hc, ?_⟩
    · rw [field?_of_passed undeclared struct, hf]
    · rw [field?_of_passed undeclared struct, hf']

end Instance

end ScriptHost
