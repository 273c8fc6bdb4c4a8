import ScriptHost.Record.Type

/-!
# The names of a record type

The names that scripts see are listed without looking anything up, and a name is looked up
without listing any. Both come to the same names (`mem_scriptNames_iff`), and the list is in
strictly increasing order (`pairwise_scriptNames`), so no name stands in it twice.
-/

namespace ScriptHost.RecordType

/-! ### Sorting -/

theorem mem_insertName {name other : String} {ns : List String} :
    other ∈ insertName name ns ↔ other = name ∨ other ∈ ns := by
  induction ns with
  | nil => simp [insertName]
  | cons n ns ih =>
    rw [insertName]
    split
    · exact List.mem_cons
    · split
      · next heq => simp [heq]
      · rw [List.mem_cons, ih, List.mem_cons]
        exact or_left_comm

/-- Inserting a name keeps names in strictly increasing order. -/
theorem pairwise_insertName {ns : List String} (hns : ns.Pairwise (· < ·)) (name : String) :
    (insertName name ns).Pairwise (· < ·) := by
  induction ns with
  | nil => exact List.pairwise_singleton _ _
  | cons n ns ih =>
    obtain ⟨hn, hns'⟩ := List.pairwise_cons.mp hns
    rw [insertName]
    split
    · next hlt =>
      refine List.pairwise_cons.mpr ⟨fun m hm => ?_, hns⟩
      rcases List.mem_cons.mp hm with rfl | hm
      · exact hlt
      · exact String.lt_trans hlt (hn m hm)
    · next hge =>
      split
      · exact hns
      · next hne =>
        refine List.pairwise_cons.mpr ⟨fun m hm => ?_, ih hns'⟩
        rcases mem_insertName.mp hm with rfl | hm
        · exact Std.lt_of_le_of_ne (String.not_lt.mp hge) (Ne.symm hne)
        · exact hn m hm

theorem mem_sortNames {name : String} {ns : List String} : name ∈ sortNames ns ↔ name ∈ ns := by
  induction ns with
  | nil => rfl
  | cons n ns ih => exact mem_insertName.trans (by rw [← sortNames, ih, List.mem_cons])

theorem pairwise_sortNames (ns : List String) : (sortNames ns).Pairwise (· < ·) := by
  induction ns with
  | nil => exact .nil
  | cons n ns ih => exact pairwise_insertName ih n

/-! ### Listing and looking up -/

variable {t : RecordType} {name : String} {d : FieldDescriptor}

/-- The names in increasing order, each once. -/
theorem pairwise_scriptNames (t : RecordType) : t.scriptNames.Pairwise (· < ·) :=
  pairwise_sortNames _

/-- Some type of the lineage declares the name. -/
def Declares (t : RecordType) (name : String) : Prop :=
  ∃ s ∈ t.lineage, ∃ d ∈ s.own.fields, d.name = name

theorem declares_root {layer : Layer} :
    (root layer).Declares name ↔ ∃ d ∈ layer.fields, d.name = name := by
  simp [Declares, lineage, own]

theorem declares_extending {layer : Layer} {field : String} {base : RecordType} :
    (extending layer field base).Declares name ↔
      (∃ d ∈ layer.fields, d.name = name) ∨ base.Declares name := by
  simp [Declares, lineage, own]

theorem mem_scriptNames : name ∈ t.scriptNames ↔ t.Declares name := by
  rw [scriptNames, mem_sortNames]
  simp only [Declares, List.mem_flatMap, List.mem_map]

theorem ownField?_eq_none_iff : t.ownField? name = none ↔ ∀ d ∈ t.own.fields, d.name ≠ name := by
  simp [ownField?, List.find?_eq_none]

theorem lookup?_eq_none_iff : t.lookup? name = none ↔ ¬ t.Declares name := by
  simp only [lookup?, List.findSome?_eq_none_iff, ownField?_eq_none_iff, Declares, not_exists,
    not_and, ne_eq]

/-- **Listing agrees with looking up**: the names are those that a look-up finds. -/
theorem mem_scriptNames_iff : name ∈ t.scriptNames ↔ (t.lookup? name).isSome = true := by
  rw [mem_scriptNames, Option.isSome_iff_ne_none, Ne, lookup?_eq_none_iff, Classical.not_not]

end ScriptHost.RecordType
