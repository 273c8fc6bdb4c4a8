import ScriptHost.Proofs.Record.Hidden

/-!
# Writing two fields

The field that a name is resolved to has a place in every instance of the type: the number of its
layer and its identifier (`RecordType.place?`). Fields at different places can be written in
either order (`Instance.write_comm`).
-/

namespace ScriptHost

open Outcome

/-- **The place of the field that a name is resolved to**: the number of its layer, counted from
the most derived one, and its identifier. -/
def RecordType.place? : RecordType → String → Option (Nat × String)
  | .root layer, name => ((RecordType.root layer).ownField? name).map fun d => (0, d.field)
  | .extending layer field base, name =>
    match (RecordType.extending layer field base).ownField? name with
    | some d => some (0, d.field)
    | none => (place? base name).map fun place => (place.1 + 1, place.2)

theorem RecordType.place?_of_ownField? {t : RecordType} {name : String} {d : FieldDescriptor}
    (hd : t.ownField? name = some d) : t.place? name = some (0, d.field) := by
  cases t with
  | root layer => rw [place?, hd, Option.map_some]
  | extending layer field base => rw [place?, hd]

theorem RecordType.place?_of_passed {layer : Layer} {field : String} {base : RecordType}
    {name : String} (hd : (RecordType.extending layer field base).ownField? name = none) :
    (RecordType.extending layer field base).place? name =
      (base.place? name).map fun place => (place.1 + 1, place.2) := by
  rw [place?, hd]

namespace Part

variable {p : Part} {f g : StoredField} {ident : String}

theorem replace_comm (hne : f.ident ≠ g.ident) (p : Part) :
    (p.replace f).replace g = (p.replace g).replace f := by
  unfold replace
  simp only [List.map_map, Part.mk.injEq, true_and]
  refine List.map_congr_left fun e _ => ?_
  by_cases hf : e.ident = f.ident
  · simp [hf, hne]
  · by_cases hg : e.ident = g.ident
    · simp [hg, hne.symm]
    · simp [hf, hg]

theorem field?_replace_ne (hne : ident ≠ g.ident) (p : Part) :
    (p.replace g).field? ident = p.field? ident := by
  have hagree : p.Agree (· ≠ g.ident) (p.replace g) := .replace_self (not_not_intro rfl)
  exact (hagree.field?_eq hne).symm

end Part

namespace Instance

variable {i i' j : Instance} {d e : FieldDescriptor} {s r : Slot} {f g : StoredField}

@[simp] theorem withOwn_withOwn (p q : Part) (i : Instance) :
    (i.withOwn p).withOwn q = i.withOwn q := by
  cases i <;> rfl

theorem target?_replace_ne (hne : e.field ≠ g.ident) :
    (i.withOwn (i.own.replace g)).target? e = i.target? e := by
  unfold target?
  rw [own_withOwn, Part.field?_replace_ne hne]
  rfl

/-- **What a writer does**: it puts what the field makes of the slot in the place of the field. -/
theorem writeWith_eq_ok_iff :
    i.writeWith d s = .ok i' ↔ d.readonly = false ∧ ∃ f g, i.target? d = some f ∧
      f.write s = .ok g ∧ i' = i.withOwn (i.own.replace g) := by
  rw [writeWith]
  cases d.readonly with
  | true => simp
  | false =>
    cases i.target? d with
    | none => simp
    | some f =>
      have hmap : (f.write s).map (fun g => i.withOwn (i.own.replace g)) = .ok i' ↔
          ∃ g, f.write s = .ok g ∧ i' = i.withOwn (i.own.replace g) := by
        rw [map_eq_ok_iff]
        exact exists_congr fun g => and_congr_right' eq_comm
      simpa using hmap

/-- A writer puts a field of the same identifier in the place of a field. -/
theorem ident_of_write (hf : i.target? d = some f) (hg : f.write s = .ok g) :
    g.ident = d.field := by
  have hident : f.ident = d.field := Agree.ident_of_target? hf
  obtain ⟨c, -, rfl⟩ := StoredField.write_eq_ok_iff.mp hg
  exact hident

theorem writeWith_comm (hne : d.field ≠ e.field) (hi : i.writeWith d s = .ok i')
    (hj : i'.writeWith e r = .ok j) :
    ∃ k, i.writeWith e r = .ok k ∧ k.writeWith d s = .ok j := by
  obtain ⟨hd, f, g, hf, hg, rfl⟩ := writeWith_eq_ok_iff.mp hi
  obtain ⟨he, f', g', hf', hg', rfl⟩ := writeWith_eq_ok_iff.mp hj
  have hident : g.ident = d.field := ident_of_write hf hg
  have hident' : g'.ident = e.field := ident_of_write hf' hg'
  rw [target?_replace_ne (hident ▸ hne.symm)] at hf'
  refine ⟨_, writeWith_eq_ok_iff.mpr ⟨he, f', g', hf', hg', rfl⟩, ?_⟩
  refine writeWith_eq_ok_iff.mpr ⟨hd, f, g, ?_, hg, ?_⟩
  · rw [target?_replace_ne (hident' ▸ hne), hf]
  · simp only [own_withOwn, withOwn_withOwn]
    rw [Part.replace_comm (hident.trans_ne (hne.trans_eq hident'.symm))]

theorem write_of_writes {t : RecordType} {name : String} (hw : Writes name s t i i') :
    write t i name s = .ok i' := by
  induction hw with
  | @own t i i' d declared written =>
    cases t with
    | root layer =>
      rw [write]
      simp only [declared, written]
    | extending layer field base =>
      rw [write.eq_def]
      simp only [declared, written]
  | passed undeclared struct rest ih =>
    rw [write.eq_def]
    simp only [undeclared, struct, if_true, ih]
    rfl

/-- By induction on the way of the first write; the second takes the same way, or leaves it by
ending in the layer that the first one passes, or by passing the layer where the first one ends. -/
theorem Writes.comm {t : RecordType} {name other : String}
    (hne : t.place? name ≠ t.place? other) (hi : Writes name s t i i')
    (hj : Writes other r t i' j) : ∃ k, Writes other r t i k ∧ Writes name s t k j := by
  induction hi generalizing j with
  | @own t i i' d declared written =>
    cases hj with
    | @own _ _ _ e declared' written' =>
      have hfield : d.field ≠ e.field := by
        intro heq
        rw [RecordType.place?_of_ownField? declared, RecordType.place?_of_ownField? declared',
          heq] at hne
        exact hne rfl
      obtain ⟨k, hk, hkj⟩ := writeWith_comm hfield written written'
      exact ⟨k, .own declared' hk, .own declared hkj⟩
    | @passed layer field base p ancestor ancestor' undeclared struct rest =>
      obtain ⟨hd, f, g, hf, hg, hp⟩ := writeWith_eq_ok_iff.mp written
      cases i with
      | root q => cases hp
      | extending q base' =>
        cases hp
        refine ⟨.extending q ancestor', .passed undeclared struct rest, .own declared ?_⟩
        exact writeWith_eq_ok_iff.mpr ⟨hd, f, g, hf, hg, rfl⟩
  | @passed layer field base p ancestor ancestor' undeclared struct rest ih =>
    cases hj with
    | @own _ _ _ e declared' written' =>
      obtain ⟨he, f, g, hf, hg, rfl⟩ := writeWith_eq_ok_iff.mp written'
      refine ⟨.extending (p.replace g) ancestor, .own declared' ?_, .passed undeclared struct rest⟩
      exact writeWith_eq_ok_iff.mpr ⟨he, f, g, hf, hg, rfl⟩
    | passed undeclared' struct' rest' =>
      rw [RecordType.place?_of_passed undeclared, RecordType.place?_of_passed undeclared'] at hne
      obtain ⟨k, hk, hkj⟩ := ih (fun heq => hne (congrArg _ heq)) rest'
      exact ⟨.extending p k, .passed undeclared' struct' hk, .passed undeclared struct hkj⟩

/-- **Fields at different places** can be written in either order. -/
theorem write_comm {t : RecordType} {name other : String} (hne : t.place? name ≠ t.place? other)
    (hi : write t i name s = .ok i') (hj : write t i' other r = .ok j) :
    ∃ k, write t i other r = .ok k ∧ write t k name s = .ok j := by
  obtain ⟨k, hk, hkj⟩ := (writes_of_write hi).comm hne (writes_of_write hj)
  exact ⟨k, write_of_writes hk, write_of_writes hkj⟩

end Instance

end ScriptHost
