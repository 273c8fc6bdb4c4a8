import ScriptHost.Proofs.Heap.WellFormed
import ScriptHost.Protocol

/-!
# Taking and giving back a hold

Whoever opens a cell changes its hold and nothing else, and gives it back when done. What is
read of the heap meanwhile is what it was before (`changeHold_release` and the lemmas on the
content of cells), and a cell that was written in between keeps what was written. Only the holds of
the opened cell change meanwhile, and a writer that leaves finds them as they were before it came
(`hold?_leave`).
-/

namespace ScriptHost

namespace Store

variable {α β : Type}

theorem set_of_size_le {s : Store α} {a : Nat} (h : s.size ≤ a) (x : α) : s.set a x = s := by
  have h' : s.cells.size ≤ a := h
  obtain ⟨cells⟩ := s
  simp only [set, Array.setIfInBounds_eq_of_size_le h']

variable [Inhabited α]

theorem modify_modify (s : Store α) (a : Nat) (f g : α → α) :
    (s.modify a f).modify a g = s.modify a fun x => g (f x) := by
  by_cases h : a < s.size
  · rw [modify, get_modify_self h, modify, set_set_self, modify]
  · have hle : s.size ≤ a := Nat.le_of_not_lt h
    rw [modify, modify, modify, set_of_size_le hle, set_of_size_le hle, set_of_size_le hle]

theorem modify_congr {s : Store α} {a : Nat} {f g : α → α} (h : f (s.get a) = g (s.get a)) :
    s.modify a f = s.modify a g := by
  rw [modify, modify, h]

theorem modify_eq_self {s : Store α} {a : Nat} {f : α → α} (h : f (s.get a) = s.get a) :
    s.modify a f = s := by
  rw [modify, h, set_get]

/-- What a change keeps of every cell is found unchanged at every address. -/
theorem get_modify_of_keeps {s : Store α} {a : Nat} {f : α → α} {p : α → β}
    (hp : ∀ x, p (f x) = p x) (b : Nat) : p ((s.modify a f).get b) = p (s.get b) := by
  by_cases hab : a = b
  · subst hab
    by_cases h : a < s.size
    · rw [get_modify_self h, hp]
    · rw [modify, set_of_size_le (Nat.le_of_not_lt h)]
  · rw [get_modify_ne hab]

/-- A cell that is not there is free, and stays so. -/
theorem hold_modify_self (cells : Store (Cell α)) (a : Address) (f : Hold → Hold) :
    ((cells.modify a fun c => { c with hold := f c.hold }).get a).hold = f (cells.get a).hold ∨
      ((cells.modify a fun c => { c with hold := f c.hold }).get a).hold = .free ∧
        (cells.get a).hold = .free := by
  by_cases h : a < cells.size
  · rw [get_modify_self h]
    exact .inl rfl
  · have hle : cells.size ≤ a := Nat.le_of_not_lt h
    rw [get_of_size_le hle, get_of_size_le (by rwa [size_modify])]
    exact .inr ⟨rfl, rfl⟩

end Store

namespace Heap

variable {β : Type} {f g : Hold → Hold} {h : Heap} {v : Value} {a : Address}

/-! ### What is seen while a cell is held -/

theorem mapping_changeHold {p : Cell (Entries Slot) → β}
    (hp : ∀ c, p { c with hold := f c.hold } = p c) :
    p ((h.changeHold f v).mapping a) = p (h.mapping a) := by
  cases v with
  | mapping b => exact Store.get_modify_of_keeps hp a
  | _ => rfl

theorem list_changeHold {p : Cell (List Slot) → β}
    (hp : ∀ c, p { c with hold := f c.hold } = p c) :
    p ((h.changeHold f v).list a) = p (h.list a) := by
  cases v with
  | list b => exact Store.get_modify_of_keeps hp a
  | _ => rfl

theorem array_changeHold {p : Cell FixedArray → β}
    (hp : ∀ c, p { c with hold := f c.hold } = p c) :
    p ((h.changeHold f v).array a) = p (h.array a) := by
  cases v with
  | array b => exact Store.get_modify_of_keeps hp a
  | _ => rfl

theorem object_changeHold {p : Cell ScriptObject → β}
    (hp : ∀ c, p { c with hold := f c.hold } = p c) :
    p ((h.changeHold f v).object a) = p (h.object a) := by
  cases v with
  | object b => exact Store.get_modify_of_keeps hp a
  | _ => rfl

theorem record_changeHold {p : Cell Record → β}
    (hp : ∀ c, p { c with hold := f c.hold } = p c) :
    p ((h.changeHold f v).record a) = p (h.record a) := by
  cases v with
  | record b => exact Store.get_modify_of_keeps hp a
  | _ => rfl

@[simp] theorem tree_changeHold : (h.changeHold f v).tree a = h.tree a := by
  cases v <;> rfl

theorem state?_changeHold (o : ObjectRef) : o.state? (h.changeHold f v) = o.state? h := by
  cases o with
  | object a => exact congrArg some (object_changeHold (p := Cell.content) fun _ => rfl)
  | view a => exact record_changeHold (p := fun c => c.content.view) fun _ => rfl

/-! ### Who holds what meanwhile -/

/-- The other cells are held as before. -/
theorem hold?_changeHold_ne {w : Value} (hne : w ≠ v) :
    (h.changeHold f v).hold? w = h.hold? w := by
  cases v with
  | mapping a =>
    cases w with
    | mapping b =>
      have hab : a ≠ b := fun hab => hne (congrArg _ hab.symm)
      exact congrArg (fun c => some (Cell.hold c)) (Store.get_modify_ne hab h.mappings _)
    | _ => rfl
  | list a =>
    cases w with
    | list b =>
      have hab : a ≠ b := fun hab => hne (congrArg _ hab.symm)
      exact congrArg (fun c => some (Cell.hold c)) (Store.get_modify_ne hab h.lists _)
    | _ => rfl
  | array a =>
    cases w with
    | array b =>
      have hab : a ≠ b := fun hab => hne (congrArg _ hab.symm)
      exact congrArg (fun c => some (Cell.hold c)) (Store.get_modify_ne hab h.arrays _)
    | _ => rfl
  | object a =>
    cases w with
    | object b =>
      have hab : a ≠ b := fun hab => hne (congrArg _ hab.symm)
      exact congrArg (fun c => some (Cell.hold c)) (Store.get_modify_ne hab h.objects _)
    | _ => rfl
  | record a =>
    cases w with
    | record b =>
      have hab : a ≠ b := fun hab => hne (congrArg _ hab.symm)
      exact congrArg (fun c => some (Cell.hold c)) (Store.get_modify_ne hab h.records _)
    | _ => rfl
  | _ => rfl

/-- The opened cell is held as it should be, unless there is no such cell. -/
theorem hold?_changeHold_self (f : Hold → Hold) (h : Heap) (v : Value) :
    (h.changeHold f v).hold? v = (h.hold? v).map f ∨
      (h.changeHold f v).hold? v = some .free ∧ h.hold? v = some .free := by
  cases v with
  | mapping a =>
    exact (Store.hold_modify_self h.mappings a f).imp (congrArg some)
      (And.imp (congrArg some) (congrArg some))
  | list a =>
    exact (Store.hold_modify_self h.lists a f).imp (congrArg some)
      (And.imp (congrArg some) (congrArg some))
  | array a =>
    exact (Store.hold_modify_self h.arrays a f).imp (congrArg some)
      (And.imp (congrArg some) (congrArg some))
  | object a =>
    exact (Store.hold_modify_self h.objects a f).imp (congrArg some)
      (And.imp (congrArg some) (congrArg some))
  | record a =>
    exact (Store.hold_modify_self h.records a f).imp (congrArg some)
      (And.imp (congrArg some) (congrArg some))
  | _ => exact .inl rfl

/-- **A writer that leaves** finds all holds as they were before it came, if nothing that was done
in between changed any. -/
theorem hold?_leave {h' : Heap} (hfree : h.hold? v = some .free)
    (hkeep : ∀ w, h'.hold? w = (h.changeHold (fun _ => .exclusive) v).hold? w) (w : Value) :
    (h'.changeHold Hold.leave v).hold? w = h.hold? w := by
  by_cases hw : w = v
  · subst hw
    have hin := hold?_changeHold_self (fun _ => .exclusive) h w
    have hout := hold?_changeHold_self Hold.leave h' w
    rw [← hkeep w, hfree] at hin
    rw [hfree]
    rcases hout with hout | ⟨hout, -⟩
    · rw [hout]
      rcases hin with hin | ⟨hin, -⟩
      · rw [hin]
        rfl
      · rw [hin]
        rfl
    · exact hout
  · rw [hold?_changeHold_ne hw, hkeep w, hold?_changeHold_ne hw]

/-! ### Giving it back -/

/-- **A hold that is given back** leaves the heap as it was. -/
theorem changeHold_release {k : Hold} (hk : h.hold? v = some k) (hgf : g (f k) = k) :
    (h.changeHold f v).changeHold g v = h := by
  cases v with
  | mapping a =>
    cases hk
    simp only [changeHold, Store.modify_modify]
    rw [Store.modify_eq_self]
    exact congrArg (Cell.mk (h.mapping a).content) hgf
  | list a =>
    cases hk
    simp only [changeHold, Store.modify_modify]
    rw [Store.modify_eq_self]
    exact congrArg (Cell.mk (h.list a).content) hgf
  | array a =>
    cases hk
    simp only [changeHold, Store.modify_modify]
    rw [Store.modify_eq_self]
    exact congrArg (Cell.mk (h.array a).content) hgf
  | object a =>
    cases hk
    simp only [changeHold, Store.modify_modify]
    rw [Store.modify_eq_self]
    exact congrArg (Cell.mk (h.object a).content) hgf
  | record a =>
    cases hk
    simp only [changeHold, Store.modify_modify]
    rw [Store.modify_eq_self]
    exact congrArg (Cell.mk (h.record a).content) hgf
  | _ => cases hk

theorem setMapping_release (hgf : g (f (h.mapping a).hold) = (h.mapping a).hold)
    (es : Entries Slot) :
    ((h.changeHold f (.mapping a)).setMapping a es).changeHold g (.mapping a) =
      h.setMapping a es := by
  simp only [changeHold, setMapping, Store.modify_modify]
  congr 1
  refine Store.modify_congr ?_
  exact congrArg (Cell.mk es) hgf

theorem setList_release (hgf : g (f (h.list a).hold) = (h.list a).hold) (ss : List Slot) :
    ((h.changeHold f (.list a)).setList a ss).changeHold g (.list a) = h.setList a ss := by
  simp only [changeHold, setList, Store.modify_modify]
  congr 1
  refine Store.modify_congr ?_
  exact congrArg (Cell.mk ss) hgf

theorem setArray_release (hgf : g (f (h.array a).hold) = (h.array a).hold) (fa : FixedArray) :
    ((h.changeHold f (.array a)).setArray a fa).changeHold g (.array a) = h.setArray a fa := by
  simp only [changeHold, setArray, Store.modify_modify]
  congr 1
  refine Store.modify_congr ?_
  exact congrArg (Cell.mk fa) hgf

theorem setFields_release (hgf : g (f (h.record a).hold) = (h.record a).hold) (i : Instance) :
    ((h.changeHold f (.record a)).setFields a i).changeHold g (.record a) = h.setFields a i := by
  simp only [changeHold, setFields, Store.modify_modify]
  congr 1
  refine Store.modify_congr ?_
  exact congrArg (Cell.mk _) hgf

end Heap

end ScriptHost
