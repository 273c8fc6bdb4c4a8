import ScriptHost.Proofs.Heap.Location
import ScriptHost.Proofs.Image.Walk

/-!
# What a conversion reads

A conversion reads the cells that its walk comes to, and depends on nothing else: a change at a
location that the walk does not visit leaves the image as it was (`image_setCell`).
-/

namespace ScriptHost

open Outcome

namespace Container

/-- The location of a container. -/
def location : Container → Location
  | mapping a => .mapping a
  | list a => .list a
  | array a => .array a

theorem location?_handle (c : Container) : c.handle.location? = some c.location := by
  cases c <;> rfl

variable {h : Heap} {c : Container} {l : Location}

/-- A container at another location is what it was. -/
theorem slots_setCell_ne (hne : c.location ≠ l) (x : l.Content) :
    c.slots (h.setCell l x) = c.slots h := by
  have hcell := Heap.cell_setCell_ne hne h x
  cases c with
  | mapping a => exact congrArg (fun m : Cell (Entries Slot) => m.content.map Prod.snd) hcell
  | list a => exact congrArg Cell.content hcell
  | array a => exact congrArg (fun m : Cell FixedArray => m.content.slots) hcell

theorem hold_setCell_ne (hne : c.location ≠ l) (x : l.Content) :
    c.hold (h.setCell l x) = c.hold h := by
  have hcell := Heap.cell_setCell_ne hne h x
  cases c <;> exact congrArg Cell.hold hcell

theorem assemble_setCell_ne (hne : c.location ≠ l) (x : l.Content) (images : List Json) :
    c.assemble (h.setCell l x) images = c.assemble h images := by
  have hcell := Heap.cell_setCell_ne hne h x
  cases c with
  | mapping a =>
    exact congrArg (fun m : Cell (Entries Slot) => Json.object (m.content.names.zip images)) hcell
  | list a => rfl
  | array a => rfl

end Container

theorem Document.node?_setCell_ne {h : Heap} {d : Document} {l : Location}
    (hne : Location.tree d.tree ≠ l) (x : l.Content) : d.node? (h.setCell l x) = d.node? h :=
  congrArg (fun j => Pointer.resolve? j d.pointer) (Heap.cell_setCell_ne hne h x)

namespace Place

/-- **The walk from a place visits a location**: it comes to a handle that leads there. -/
def Visits (h : Heap) (p : Place) (l : Location) : Prop :=
  ∃ w q, p.follow? h w = some q ∧ q.slot.bind Value.location? = some l

variable {h : Heap} {opened : List Container} {s : Slot} {c : Container} {l : Location}

/-- The location that is led to from where the walk begins is visited. -/
theorem visits_here (hl : s.bind Value.location? = some l) : Visits h ⟨opened, s⟩ l :=
  ⟨[], ⟨opened, s⟩, rfl, hl⟩

/-- What is visited from a slot is visited from its container. -/
theorem visits_container (hs : s ∈ c.slots h) (hv : Visits h ⟨c :: opened, s⟩ l) :
    Visits h ⟨opened, some c.handle⟩ l := by
  obtain ⟨i, hi⟩ := List.mem_iff_getElem?.mp hs
  obtain ⟨w, q, hq, hl⟩ := hv
  exact ⟨i :: w, q, by rw [follow?_slot hi, hq], hl⟩

/-- Where there is no container to go down into, nothing further is visited. -/
theorem not_visits_leaf (hs : s.bind Value.container? = none)
    (hl : s.bind Value.location? ≠ some l) : ¬ Visits h ⟨opened, s⟩ l := by
  rintro ⟨w, q, hq, hslot⟩
  cases w with
  | nil =>
    cases hq
    exact hl hslot
  | cons i w =>
    obtain ⟨r, hr, -⟩ := follow?_cons_eq_some_iff.mp hq
    rw [step?_leaf hs] at hr
    cases hr

theorem location_ne_of_not_visits (hv : ¬ Visits h ⟨opened, some c.handle⟩ l) :
    c.location ≠ l := by
  rintro rfl
  exact hv (visits_here c.location?_handle)

/-- The ways of a walk that does not visit a location are the same after a change there. -/
theorem follow?_setCell {p : Place} (hv : ¬ Visits h p l) (x : l.Content) (w : List Nat) :
    p.follow? (h.setCell l x) w = p.follow? h w := by
  induction w generalizing p with
  | nil => rfl
  | cons i w ih =>
    obtain ⟨opened, s⟩ := p
    obtain hs | ⟨c, rfl⟩ := Heap.leaf_or_container s
    · simp only [follow?, step?_leaf hs, Option.bind_none]
    · have hslots := Container.slots_setCell_ne (h := h) (location_ne_of_not_visits hv) x
      simp only [follow?, step?_container, hslots]
      cases hi : (c.slots h)[i]? with
      | none => rfl
      | some t => exact ih fun hvt => hv (visits_container (List.mem_of_getElem? hi) hvt)

/-- Whether a walk visits a location is not changed there. -/
theorem visits_setCell_iff {p : Place} (x : l.Content) :
    p.Visits (h.setCell l x) l ↔ p.Visits h l := by
  constructor
  · rintro ⟨w, q, hq, hl⟩
    by_contra hv
    rw [follow?_setCell hv] at hq
    exact hv ⟨w, q, hq, hl⟩
  · rintro ⟨w, q, hq, hl⟩
    by_contra hv
    have hback := follow?_setCell hv (h.cell l) w
    rw [Heap.setCell_undo, hq] at hback
    exact hv ⟨w, q, hback.symm, hl⟩

end Place

namespace Heap

open Place

variable {h : Heap} {opened : List Container} {s : Slot} {l : Location}

theorem containers_setCell (h : Heap) (l : Location) (x : l.Content) :
    (h.setCell l x).containers = h.containers := by
  cases l <;> simp only [containers, setCell, Store.size_set]

theorem imageWithin_leaf_setCell (hs : s.bind Value.container? = none)
    (hv : ¬ Visits h ⟨opened, s⟩ l) (x : l.Content) :
    (h.setCell l x).imageWithin 0 [] s = h.imageWithin 0 [] s := by
  cases s with
  | none => simp only [imageWithin]
  | some v =>
    cases v with
    | document d =>
      have hne : Location.tree d.tree ≠ l := by
        rintro rfl
        exact hv (visits_here rfl)
      simp only [imageWithin, Document.node?_setCell_ne hne]
    | mapping a => cases hs
    | list a => cases hs
    | array a => cases hs
    | _ => simp only [imageWithin]

/-- A change that the walk does not come to is not seen on the way down. By induction on the steps
that are left. -/
theorem imageWithin_setCell {steps : Nat} (hv : ¬ Visits h ⟨opened, s⟩ l) (x : l.Content) :
    (h.setCell l x).imageWithin steps opened s = h.imageWithin steps opened s := by
  induction steps generalizing opened s with
  | zero =>
    obtain hs | ⟨c, rfl⟩ := leaf_or_container s
    · rw [imageWithin_leaf hs, imageWithin_leaf hs h 0 opened]
      exact imageWithin_leaf_setCell hs hv x
    · cases c <;> simp only [Container.handle, imageWithin]
  | succ steps ih =>
    obtain hs | ⟨c, rfl⟩ := leaf_or_container s
    · rw [imageWithin_leaf hs, imageWithin_leaf hs h (steps + 1)]
      exact imageWithin_leaf_setCell hs hv x
    · have hne := location_ne_of_not_visits hv
      have hopen : (h.setCell l x).openable opened c = h.openable opened c := by
        rw [openable, openable, Container.hold_setCell_ne hne]
      have hslots : (c.slots h).mapM ((h.setCell l x).imageWithin steps (c :: opened)) =
          (c.slots h).mapM (h.imageWithin steps (c :: opened)) := by
        refine mapM_congr fun t ht => ih ?_
        exact fun hvt => hv (visits_container ht hvt)
      rw [imageWithin_container, imageWithin_container, hopen, Container.slots_setCell_ne hne,
        hslots, funext (Container.assemble_setCell_ne hne x)]

/-- **A conversion depends on the cells that it visits alone.** -/
theorem image_setCell (hv : ¬ (start s).Visits h l) (x : l.Content) :
    (h.setCell l x).image s = h.image s := by
  rw [image, image, containers_setCell]
  exact imageWithin_setCell hv x

end Heap

end ScriptHost
