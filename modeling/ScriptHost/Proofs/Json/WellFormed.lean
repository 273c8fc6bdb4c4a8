import ScriptHost.Proofs.Json.Path

/-!
# Well-formed trees

The objects of a tree are maps: no name stands twice in one of them. A tree keeps this when
a subtree is replaced by a well-formed one, and every node that a path leads to has it.
-/

namespace ScriptHost.Json

open Pointer

/-- At every level the names of an object are distinct. -/
inductive WellFormed : Json → Prop where
  | null : WellFormed .null
  | bool (b : Bool) : WellFormed (.bool b)
  | number (n : JsonNumber) : WellFormed (.number n)
  | string (s : String) : WellFormed (.string s)
  | array {items : List Json} : (∀ j ∈ items, WellFormed j) → WellFormed (.array items)
  | object {members : Entries Json} : Entries.WellFormed members →
      (∀ e ∈ members, WellFormed e.2) → WellFormed (.object members)

theorem wellFormed_array_iff {items : List Json} :
    WellFormed (.array items) ↔ ∀ j ∈ items, WellFormed j :=
  ⟨fun | .array h => h, .array⟩

theorem wellFormed_object_iff {members : Entries Json} :
    WellFormed (.object members) ↔ Entries.WellFormed members ∧ ∀ e ∈ members, WellFormed e.2 :=
  ⟨fun | .object hd hm => ⟨hd, hm⟩, fun ⟨hd, hm⟩ => .object hd hm⟩

theorem members?_eq_some_iff {j : Json} {members : Entries Json} :
    j.members? = some members ↔ j = .object members := by
  cases j <;> simp [members?]

theorem items?_eq_some_iff {j : Json} {items : List Json} :
    j.items? = some items ↔ j = .array items := by
  cases j <;> simp [items?]

theorem WellFormed.child {j c : Json} (wf : j.WellFormed) {token : String}
    (h : child? token j = some c) : c.WellFormed := by
  cases wf with
  | object _ hm => exact hm _ (Entries.mem_of_value? h)
  | array hi =>
    obtain ⟨i, -, h⟩ := Option.bind_eq_some_iff.mp h
    exact hi c (List.mem_of_getElem? h)
  | _ => cases h

/-- A node of a well-formed tree is well-formed. -/
theorem WellFormed.follow {j c : Json} (wf : j.WellFormed) {path : List String}
    (h : follow? j path = some c) : c.WellFormed := by
  induction path generalizing j with
  | nil => exact Option.some.inj h ▸ wf
  | cons t ts ih =>
    rw [follow?_cons] at h
    obtain ⟨d, hd, h⟩ := Option.bind_eq_some_iff.mp h
    exact ih (wf.child hd) h

theorem WellFormed.modifyChild {j : Json} (wf : j.WellFormed) {token : String} {f : Json → Json}
    (hf : ∀ c, child? token j = some c → (f c).WellFormed) :
    (modifyChild token f j).WellFormed := by
  cases wf with
  | @object members hd hm =>
    rw [Pointer.modifyChild]
    refine .object (by rwa [Entries.WellFormed, names_modifyEntry]) fun e he => ?_
    rcases mem_modifyEntry he with he | ⟨c, hc, rfl⟩
    · exact hm e he
    · exact hf c ((Entries.value?_eq_some_iff hd).mpr hc)
  | @array items hi =>
    rw [Pointer.modifyChild]
    split
    · next i htok =>
      refine .array fun j hj => ?_
      obtain ⟨k, hk⟩ := List.mem_iff_getElem?.mp hj
      rw [List.getElem?_modify] at hk
      obtain ⟨c, hc, rfl⟩ := Option.map_eq_some_iff.mp hk
      split
      · next hik => exact hf c (by rw [child?, htok, hik]; exact hc)
      · exact hi c (List.mem_of_getElem? hc)
    · exact .array hi
  | null => exact .null
  | bool b => exact .bool b
  | number n => exact .number n
  | string s => exact .string s

/-- A change that keeps the node at the end of a path well-formed keeps the tree so. -/
theorem WellFormed.modifyAt {j : Json} (wf : j.WellFormed) {path : List String} {f : Json → Json}
    (hf : ∀ c, follow? j path = some c → (f c).WellFormed) : (modifyAt f path j).WellFormed := by
  induction path generalizing j with
  | nil => exact hf j rfl
  | cons t ts ih =>
    refine wf.modifyChild fun c hc => ih (wf.child hc) fun d hd => hf d ?_
    rw [follow?_cons, hc]
    exact hd

end ScriptHost.Json
