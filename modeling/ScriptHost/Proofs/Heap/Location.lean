import ScriptHost.Proofs.Heap.Hold

/-!
# Locations

A heap keeps its cells in one store for each sort. A location names a cell whatever its sort, and
`Heap.cell` and `Heap.setCell` find and replace what stands there. All that two accesses can have
to do with each other is then a matter of their locations: a change is seen where it was made
(`cell_setCell_self`) and nowhere else (`cell_setCell_ne`), and changes at different locations can
be made in either order (`setCell_comm`).
-/

namespace ScriptHost

/-- The place of a cell in a heap: its sort, and its address among the cells of that sort. -/
inductive Location where
  | mapping (a : Address)
  | list (a : Address)
  | array (a : Address)
  | object (a : Address)
  | record (a : Address)
  | tree (a : Address)
  deriving DecidableEq, Repr

/-- The location that a handle leads to; a document handle leads to its tree, a scalar nowhere. -/
def Value.location? : Value → Option Location
  | .mapping a => some (.mapping a)
  | .list a => some (.list a)
  | .array a => some (.array a)
  | .object a => some (.object a)
  | .record a => some (.record a)
  | .document d => some (.tree d.tree)
  | _ => none

namespace Location

/-- What stands at a location. -/
abbrev Content : Location → Type
  | mapping _ => Cell (Entries Slot)
  | list _ => Cell (List Slot)
  | array _ => Cell FixedArray
  | object _ => Cell ScriptObject
  | record _ => Cell Record
  | tree _ => Json

end Location

namespace Heap

/-- What stands at a location of a heap. -/
def cell (h : Heap) : (l : Location) → l.Content
  | .mapping a => h.mapping a
  | .list a => h.list a
  | .array a => h.array a
  | .object a => h.object a
  | .record a => h.record a
  | .tree a => h.tree a

/-- Replaces what stands at a location. -/
def setCell (h : Heap) : (l : Location) → l.Content → Heap
  | .mapping a, c => { h with mappings := h.mappings.set a c }
  | .list a, c => { h with lists := h.lists.set a c }
  | .array a, c => { h with arrays := h.arrays.set a c }
  | .object a, c => { h with objects := h.objects.set a c }
  | .record a, c => { h with records := h.records.set a c }
  | .tree a, j => { h with trees := h.trees.set a j }

/-- The location was given out. -/
def Has (h : Heap) : Location → Prop
  | .mapping a => a < h.mappings.size
  | .list a => a < h.lists.size
  | .array a => a < h.arrays.size
  | .object a => a < h.objects.size
  | .record a => a < h.records.size
  | .tree a => a < h.trees.size

variable {h : Heap} {l m : Location}

theorem cell_setCell_self (has : h.Has l) (x : l.Content) : (h.setCell l x).cell l = x := by
  cases l <;> exact Store.get_set_self has x

/-- **A change is not seen at another location.** -/
theorem cell_setCell_ne (hne : m ≠ l) (h : Heap) (x : l.Content) :
    (h.setCell l x).cell m = h.cell m := by
  -- stores of different sorts have nothing to do with each other
  cases l with
  | mapping a =>
    cases m with
    | mapping b => exact Store.get_set_ne (fun hab => hne (congrArg _ hab.symm)) h.mappings x
    | _ => rfl
  | list a =>
    cases m with
    | list b => exact Store.get_set_ne (fun hab => hne (congrArg _ hab.symm)) h.lists x
    | _ => rfl
  | array a =>
    cases m with
    | array b => exact Store.get_set_ne (fun hab => hne (congrArg _ hab.symm)) h.arrays x
    | _ => rfl
  | object a =>
    cases m with
    | object b => exact Store.get_set_ne (fun hab => hne (congrArg _ hab.symm)) h.objects x
    | _ => rfl
  | record a =>
    cases m with
    | record b => exact Store.get_set_ne (fun hab => hne (congrArg _ hab.symm)) h.records x
    | _ => rfl
  | tree a =>
    cases m with
    | tree b => exact Store.get_set_ne (fun hab => hne (congrArg _ hab.symm)) h.trees x
    | _ => rfl

/-- **Changes at different locations** can be made in either order. -/
theorem setCell_comm (hne : l ≠ m) (h : Heap) (x : l.Content) (y : m.Content) :
    (h.setCell l x).setCell m y = (h.setCell m y).setCell l x := by
  cases l with
  | mapping a =>
    cases m with
    | mapping b =>
      exact congrArg (fun mappings => { h with mappings })
        (Store.set_comm (fun hab => hne (congrArg _ hab)) h.mappings x y)
    | _ => rfl
  | list a =>
    cases m with
    | list b =>
      exact congrArg (fun lists => { h with lists })
        (Store.set_comm (fun hab => hne (congrArg _ hab)) h.lists x y)
    | _ => rfl
  | array a =>
    cases m with
    | array b =>
      exact congrArg (fun arrays => { h with arrays })
        (Store.set_comm (fun hab => hne (congrArg _ hab)) h.arrays x y)
    | _ => rfl
  | object a =>
    cases m with
    | object b =>
      exact congrArg (fun objects => { h with objects })
        (Store.set_comm (fun hab => hne (congrArg _ hab)) h.objects x y)
    | _ => rfl
  | record a =>
    cases m with
    | record b =>
      exact congrArg (fun records => { h with records })
        (Store.set_comm (fun hab => hne (congrArg _ hab)) h.records x y)
    | _ => rfl
  | tree a =>
    cases m with
    | tree b =>
      exact congrArg (fun trees => { h with trees })
        (Store.set_comm (fun hab => hne (congrArg _ hab)) h.trees x y)
    | _ => rfl

theorem setCell_setCell (h : Heap) (l : Location) (x y : l.Content) :
    (h.setCell l x).setCell l y = h.setCell l y := by
  cases l <;> simp only [setCell, Store.set_set_self]

/-- Putting back what is there changes nothing. -/
theorem setCell_cell (h : Heap) (l : Location) : h.setCell l (h.cell l) = h := by
  cases l with
  | mapping a => exact congrArg (fun mappings => { h with mappings }) (Store.set_get h.mappings a)
  | list a => exact congrArg (fun lists => { h with lists }) (Store.set_get h.lists a)
  | array a => exact congrArg (fun arrays => { h with arrays }) (Store.set_get h.arrays a)
  | object a => exact congrArg (fun objects => { h with objects }) (Store.set_get h.objects a)
  | record a => exact congrArg (fun records => { h with records }) (Store.set_get h.records a)
  | tree a => exact congrArg (fun trees => { h with trees }) (Store.set_get h.trees a)

/-- A change is undone by putting back what was there before. -/
theorem setCell_undo (h : Heap) (l : Location) (x : l.Content) :
    (h.setCell l x).setCell l (h.cell l) = h := by
  rw [setCell_setCell, setCell_cell]

/-- A change is found where it was made, or there is nothing to change there. -/
theorem cell_setCell_or_eq (h : Heap) (l : Location) (x : l.Content) :
    (h.setCell l x).cell l = x ∨ h.setCell l x = h := by
  by_cases has : h.Has l
  · exact .inl (cell_setCell_self has x)
  · right
    cases l with
    | mapping a =>
      exact congrArg (fun mappings => { h with mappings })
        (Store.set_of_size_le (Nat.le_of_not_lt has) x)
    | list a =>
      exact congrArg (fun lists => { h with lists })
        (Store.set_of_size_le (Nat.le_of_not_lt has) x)
    | array a =>
      exact congrArg (fun arrays => { h with arrays })
        (Store.set_of_size_le (Nat.le_of_not_lt has) x)
    | object a =>
      exact congrArg (fun objects => { h with objects })
        (Store.set_of_size_le (Nat.le_of_not_lt has) x)
    | record a =>
      exact congrArg (fun records => { h with records })
        (Store.set_of_size_le (Nat.le_of_not_lt has) x)
    | tree a =>
      exact congrArg (fun trees => { h with trees })
        (Store.set_of_size_le (Nat.le_of_not_lt has) x)

end Heap

end ScriptHost
