import ScriptHost.Heap
import ScriptHost.Proofs.Json.WellFormed

/-!
# Well-formed heaps

Mappings and objects of documents are maps: their names are distinct. A handle in use leads
to a cell of the heap, for cells are never taken away. Both are facts about how heaps come
about and not about one access, so they are assumed where an access is described, and
`WellFormed` is shown to be kept by every change of a cell.
-/

namespace ScriptHost

namespace Store

variable {α : Type} [Inhabited α]

@[simp] theorem get_modify_self {s : Store α} {a : Nat} (h : a < s.size) (f : α → α) :
    (s.modify a f).get a = f (s.get a) := get_set_self h _

theorem get_modify_ne {a b : Nat} (h : a ≠ b) (s : Store α) (f : α → α) :
    (s.modify a f).get b = s.get b := get_set_ne h s _

@[simp] theorem size_modify (s : Store α) (a : Nat) (f : α → α) : (s.modify a f).size = s.size :=
  size_set s a _

theorem get_of_size_le {s : Store α} {a : Nat} (h : s.size ≤ a) : s.get a = default := by
  have h' : s.cells.size ≤ a := h
  simp [get, h']

theorem get_empty (a : Nat) : (empty : Store α).get a = default := get_of_size_le (Nat.zero_le a)

/-- A new cell takes the next address. -/
theorem get_add (s : Store α) (x : α) (a : Nat) :
    (s.add x).1.get a = if a = s.size then x else s.get a := by
  have hsize : s.size = s.cells.size := rfl
  rw [hsize]
  simp only [add, get, Array.getElem?_push]
  split <;> rfl

/-- What every cell has after a change: the cells had it before, and the change kept it. -/
theorem forall_get_modify {s : Store α} {a : Nat} {f : α → α} {p : α → Prop}
    (hs : ∀ b, p (s.get b)) (hf : p (f (s.get a))) (b : Nat) : p ((s.modify a f).get b) := by
  by_cases hab : a = b
  · subst hab
    by_cases hlt : a < s.size
    · rwa [get_modify_self hlt]
    · have hle : s.size ≤ a := Nat.le_of_not_lt hlt
      have hd := hs a
      rw [get_of_size_le hle] at hd
      rwa [get_of_size_le (by rwa [size_modify])]
  · rw [get_modify_ne hab]
    exact hs b

/-- What corresponding cells of two stores have to do with each other after a change of both: they
had it before, and the changes kept it. -/
theorem rel_get_modify {s s' : Store α} {a : Nat} {f f' : α → α} {R : α → α → Prop}
    (hsize : s.size = s'.size) (hs : ∀ b, R (s.get b) (s'.get b))
    (hf : R (f (s.get a)) (f' (s'.get a))) (b : Nat) :
    R ((s.modify a f).get b) ((s'.modify a f').get b) := by
  by_cases hab : a = b
  · subst hab
    by_cases hlt : a < s.size
    · rwa [get_modify_self hlt, get_modify_self (hsize ▸ hlt)]
    · have hle : s.size ≤ a := Nat.le_of_not_lt hlt
      have hd := hs a
      rw [get_of_size_le hle, get_of_size_le (hsize ▸ hle)] at hd
      rwa [get_of_size_le (by rwa [size_modify]), get_of_size_le (by rwa [size_modify, ← hsize])]
  · rw [get_modify_ne hab, get_modify_ne hab]
    exact hs b

end Store

namespace Heap

/-- The cell that a handle leads to is there. -/
def Live (h : Heap) : Value → Prop
  | .mapping a => a < h.mappings.size
  | .list a => a < h.lists.size
  | .array a => a < h.arrays.size
  | .object a => a < h.objects.size
  | .record a => a < h.records.size
  | .document d => d.tree < h.trees.size
  | _ => True

/-- The names of every mapping, and of every object inside a document, are distinct. -/
structure WellFormed (h : Heap) : Prop where
  mapping : ∀ a, (h.mapping a).content.WellFormed
  tree : ∀ a, (h.tree a).WellFormed

/-! ### What a change of a cell does -/

section Changes

variable {h : Heap} {a b : Address}

@[simp] theorem mapping_setMapping_self (ha : a < h.mappings.size) (es : Entries Slot) :
    (h.setMapping a es).mapping a = { h.mapping a with content := es } :=
  Store.get_modify_self ha _

@[simp] theorem list_setList_self (ha : a < h.lists.size) (ss : List Slot) :
    (h.setList a ss).list a = { h.list a with content := ss } :=
  Store.get_modify_self ha _

@[simp] theorem array_setArray_self (ha : a < h.arrays.size) (fa : FixedArray) :
    (h.setArray a fa).array a = { h.array a with content := fa } :=
  Store.get_modify_self ha _

@[simp] theorem record_setFields_self (ha : a < h.records.size) (i : Instance) :
    (h.setFields a i).record a =
      { h.record a with content := { (h.record a).content with fields := i } } :=
  Store.get_modify_self ha _

@[simp] theorem tree_setTree_self (ha : a < h.trees.size) (j : Json) : (h.setTree a j).tree a = j :=
  Store.get_set_self ha j

theorem tree_setTree_ne (hab : a ≠ b) (j : Json) : (h.setTree a j).tree b = h.tree b :=
  Store.get_set_ne hab _ j

/-- Writing back the fields that are there changes nothing. -/
theorem setFields_fields (h : Heap) (a : Address) :
    h.setFields a (h.record a).content.fields = h :=
  congrArg (fun records => { h with records }) (Store.set_get h.records a)

theorem tree_newDocument (h : Heap) (j : Json) (a : Address) :
    (h.newDocument j).1.tree a = if a = h.trees.size then j else h.tree a :=
  Store.get_add h.trees j a

/-- There is nothing at an address that was never given out. -/
theorem tree_of_size_le (ha : h.trees.size ≤ a) : h.tree a = .null := Store.get_of_size_le ha

end Changes

/-! ### Keeping a heap well-formed -/

namespace WellFormed

variable {h : Heap} (wf : h.WellFormed)

include wf

theorem setMapping (a : Address) {es : Entries Slot} (hes : es.WellFormed) :
    (h.setMapping a es).WellFormed :=
  ⟨Store.forall_get_modify (p := fun c : Cell (Entries Slot) => c.content.WellFormed)
    wf.mapping hes, wf.tree⟩

theorem setTree (a : Address) {j : Json} (hj : j.WellFormed) : (h.setTree a j).WellFormed :=
  ⟨wf.mapping, Store.forall_get_modify (f := fun _ => j) (p := Json.WellFormed) wf.tree hj⟩

theorem setList (a : Address) (ss : List Slot) : (h.setList a ss).WellFormed :=
  ⟨wf.mapping, wf.tree⟩

theorem setArray (a : Address) (fa : FixedArray) : (h.setArray a fa).WellFormed :=
  ⟨wf.mapping, wf.tree⟩

theorem setFields (a : Address) (i : Instance) : (h.setFields a i).WellFormed :=
  ⟨wf.mapping, wf.tree⟩

theorem changeHold (f : Hold → Hold) (v : Value) : (h.changeHold f v).WellFormed := by
  cases v with
  | mapping a =>
    exact ⟨Store.forall_get_modify (p := fun c : Cell (Entries Slot) => c.content.WellFormed)
      wf.mapping (wf.mapping a), wf.tree⟩
  | _ => exact ⟨wf.mapping, wf.tree⟩

end WellFormed

end Heap

end ScriptHost
