import ScriptHost.Proofs.Record.Derived

/-!
# Why a field is not written

A field refuses a slot because it is sealed, or because its type asks for something else
(`Instance.Refuses`); and these are all the reasons for which a write under a declared name fails
(`Instance.Accepted.write_error_iff`).
-/

namespace ScriptHost

open Outcome

/-- What a type asks for is not what it rejects. -/
theorem FieldType.requirement_ne_typeName {t : FieldType} {s : Slot} {e : AccessError}
    (he : t.ofSlot s = .error e) : t.core.requirement.name ≠ s.typeName := by
  induction t with
  | option t ih =>
    cases s with
    | none => cases he
    | some v => exact ih (map_eq_error_iff.mp he)
  | _ =>
    rcases s with _ | v
    · simp [core, requirement, Requirement.name, ValueType.name, Slot.typeName]
    · cases v <;> cases he <;>
        simp [core, requirement, Requirement.name, ValueType.name, Slot.typeName, Value.type]

theorem RecordType.name_of_lookup? {t : RecordType} {name : String} {d : FieldDescriptor}
    (hd : t.lookup? name = some d) : d.name = name := by
  obtain ⟨s, -, hs⟩ := List.exists_of_findSome?_eq_some hd
  simpa using List.find?_some hs

namespace Instance

variable {t : RecordType} {i : Instance} {name : String} {d : FieldDescriptor} {f : StoredField}

/-- **Why the writer of a descriptor fails**: the field is sealed, or the slot does not fit. -/
inductive Refuses (d : FieldDescriptor) (f : StoredField) (s : Slot) : AccessError → Prop where
  | sealed (readonly : d.readonly = true) : Refuses d f s (.readOnly d.name)
  | unfit {e : AccessError} (writable : d.readonly = false) (unfit : f.type.ofSlot s = .error e) :
      Refuses d f s e

theorem writeWith_error_iff (hf : i.target? d = some f) (s : Slot) (e : AccessError) :
    i.writeWith d s = .error e ↔ Refuses d f s e := by
  rw [writeWith, hf]
  cases hro : d.readonly with
  | true =>
    constructor
    · intro he
      cases he
      exact .sealed hro
    · rintro (_ | ⟨writable, -⟩)
      · rfl
      · rw [hro] at writable
        cases writable
  | false =>
    simp only [Bool.false_eq_true, if_false, map_eq_error_iff, StoredField.write]
    constructor
    · exact .unfit hro
    · rintro (readonly | ⟨-, unfit⟩)
      · rw [hro] at readonly
        cases readonly
      · exact unfit

/-- A write to a declared name fails as the writer of its descriptor does. By induction on the walk
to the ancestor that declares the name. -/
theorem Accepted.write_error_iff (ht : Accepted t i) (hd : t.lookup? name = some d) :
    ∃ f, field? t i name = some f ∧ ∀ s e, write t i name s = .error e ↔ Refuses d f s e := by
  induction ht with
  | @root layer i accessors =>
    have hown : (RecordType.root layer).ownField? name = some d := by
      rw [← hd, RecordType.lookup?, RecordType.lineage, List.findSome?_cons]
      cases (RecordType.root layer).ownField? name <;> rfl
    obtain ⟨f, hf⟩ := Option.isSome_iff_exists.mp (accessors d (List.mem_of_find?_eq_some hown))
    refine ⟨f, by rw [field?_of_ownField? hown, hf], fun s e => ?_⟩
    rw [write, hown]
    exact writeWith_error_iff hf s e
  | @extending layer field t p ancestor accessors projection rest ih =>
    rw [RecordType.lookup?_extending] at hd
    cases hown : (RecordType.extending layer field t).ownField? name with
    | some d' =>
      rw [hown] at hd
      cases hd
      obtain ⟨f, hf⟩ := Option.isSome_iff_exists.mp (accessors d (List.mem_of_find?_eq_some hown))
      refine ⟨f, by rw [field?_of_ownField? hown, hf], fun s e => ?_⟩
      rw [write, hown]
      exact writeWith_error_iff hf s e
    | none =>
      rw [hown] at hd
      obtain ⟨f, hf, hwrite⟩ := ih hd
      refine ⟨f, by rw [field?_of_passed hown projection, hf], fun s e => ?_⟩
      rw [write, hown]
      simp only [projection, if_true, map_eq_error_iff]
      exact hwrite s e

end Instance

end ScriptHost
